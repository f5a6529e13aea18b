/-
This file proves that tracing never perturbs the program. Two reactors may differ in their traces:
in the mask, in the entries that are held, and in how many can be held. In one run the application
may read the trace, clear it and edit its mask where it does not in the other. If the runs agree in
everything else, they go the same way: what is published and refused, what the timers do, which
events reach which machines, and every reading of the clock.
-/
import BusNode.Node
import BusNode.Proofs.Effect
import BusNode.Proofs.Reactor.Turnover
import BusNode.Proofs.Reactor.Watched
import BusNode.Sim.Bench
import BusNode.Sim.Wire
import BusNode.Supervisor

namespace BusNode

/-- Whether an effect is a reading of the clock. -/
def Effect.readsClock : Effect → Bool
  | .micros _ | .millis _ => true
  | _ => false

/-- How often the clock was read. -/
def Recorded.readings {World : Type} (recorded : Recorded World) : Nat :=
  recorded.history.countP Effect.readsClock

namespace Reactor

variable {queueDepth leftDepth rightDepth : Depth} {timerCount : Nat}

/-! ### Reactors that differ in their traces -/

/-- Two reactors that differ in nothing but their traces. -/
structure Alike (left : Reactor queueDepth leftDepth timerCount)
    (right : Reactor queueDepth rightDepth timerCount) : Prop where
  queue : left.queue = right.queue
  timers : left.timers = right.timers
  config : left.config = right.config

/-- Two outcomes that differ in nothing but the traces. -/
structure Agree {α World : Type} (left : (α × Reactor queueDepth leftDepth timerCount) × World)
    (right : (α × Reactor queueDepth rightDepth timerCount) × World) : Prop where
  answer : left.1.1 = right.1.1
  reactor : left.1.2.Alike right.1.2
  world : left.2 = right.2

namespace Alike

variable {left : Reactor queueDepth leftDepth timerCount}
  {right : Reactor queueDepth rightDepth timerCount}

theorem core (alike : Alike left right) : left.core = right.core := by
  unfold Reactor.core
  rw [alike.queue, alike.timers, alike.config]

theorem next? (alike : Alike left right) :
    left.next? = none ∧ right.next? = none ∨
      ∃ event leftRest rightRest, left.next? = some (event, leftRest) ∧
        right.next? = some (event, rightRest) ∧ Alike leftRest rightRest := by
  unfold Reactor.next?
  rw [alike.queue]
  cases right.queue.next? with
  | none => exact .inl ⟨rfl, rfl⟩
  | some taken => exact .inr ⟨_, _, _, rfl, rfl, rfl, alike.timers, alike.config⟩

section Operations

variable {World : Type} [Clock World] [Journal World] (world : World)

theorem publish (alike : Alike left right) (place : QueueEnd) (event : Event) :
    Agree (left.publish place event world) (right.publish place event world) := by
  obtain ⟨queue, leftTrace, timers, config⟩ := left
  obtain ⟨_, rightTrace, _, _⟩ := right
  obtain ⟨rfl, rfl, rfl⟩ := alike
  unfold Reactor.publish
  cases event.isNil with
  | true => exact ⟨rfl, ⟨rfl, rfl, rfl⟩, rfl⟩
  | false =>
    simp only [Bool.false_eq_true, if_false, record]
    cases queue.insert? place event <;> exact ⟨rfl, ⟨rfl, rfl, rfl⟩, rfl⟩

theorem emit (alike : Alike left right) (emission : Emission) :
    Alike (left.emit emission world).1 (right.emit emission world).1 ∧
      (left.emit emission world).2 = (right.emit emission world).2 := by
  cases emission with
  | trace event => exact ⟨⟨alike.queue, alike.timers, alike.config⟩, rfl⟩
  | note notice => exact ⟨alike, rfl⟩
  | publish event =>
    have agree := alike.publish world .back event
    exact ⟨agree.reactor, agree.world⟩

theorem emitAll (alike : Alike left right) (emissions : List Emission) :
    Alike (Reactor.emitAll emissions left world).1 (Reactor.emitAll emissions right world).1 ∧
      (Reactor.emitAll emissions left world).2 = (Reactor.emitAll emissions right world).2 := by
  induction emissions generalizing left right world with
  | nil => exact ⟨alike, rfl⟩
  | cons emission rest inductionHypothesis =>
    obtain ⟨after, onward⟩ := alike.emit world emission
    have later := inductionHypothesis (left.emit emission world).2 after
    show Alike (Reactor.emitAll rest _ _).1
        (Reactor.emitAll rest _ (right.emit emission world).2).1 ∧
      (Reactor.emitAll rest _ _).2 = (Reactor.emitAll rest _ (right.emit emission world).2).2
    rw [← onward]
    exact later

theorem startTimer (alike : Alike left right) (index : UInt8) (ticks : UInt16) :
    Agree (left.startTimer index ticks world) (right.startTimer index ticks world) := by
  unfold Reactor.startTimer
  rw [alike.timers]
  cases right.timers.start? index ticks with
  | none => exact ⟨rfl, alike, rfl⟩
  | some started =>
    obtain ⟨cookie, emissions, timers⟩ := started
    have started : Alike { left with timers } { right with timers } :=
      ⟨alike.queue, rfl, alike.config⟩
    obtain ⟨reactor, onward⟩ := started.emitAll world emissions
    exact ⟨rfl, reactor, onward⟩

theorem stopTimer (alike : Alike left right) (index : UInt8) :
    Alike (left.stopTimer index world).1 (right.stopTimer index world).1 ∧
      (left.stopTimer index world).2 = (right.stopTimer index world).2 := by
  unfold Reactor.stopTimer
  rw [alike.timers]
  have stopped : Alike { left with timers := (right.timers.stop index).2 }
      { right with timers := (right.timers.stop index).2 } := ⟨alike.queue, rfl, alike.config⟩
  exact stopped.emitAll world _

theorem tick (alike : Alike left right) :
    Alike (left.tick world).1 (right.tick world).1 ∧
      (left.tick world).2 = (right.tick world).2 := by
  unfold Reactor.tick
  rw [alike.timers]
  have ticked : Alike { left with timers := right.timers.tick.2 }
      { right with timers := right.timers.tick.2 } := ⟨alike.queue, rfl, alike.config⟩
  exact ticked.emitAll world _

theorem perform (alike : Alike left right) (service : Service) :
    Agree (left.perform service world) (right.perform service world) := by
  cases service with
  | publish place event => exact alike.publish world place event
  | trace event => exact ⟨rfl, ⟨alike.queue, alike.timers, alike.config⟩, rfl⟩
  | startTimer index ticks => exact alike.startTimer world index ticks
  | stopTimer index =>
    obtain ⟨reactor, onward⟩ := alike.stopTimer world index
    exact ⟨rfl, reactor, onward⟩
  | ticksLeft index => exact ⟨congrArg (·.remaining index) alike.timers, alike, rfl⟩
  | isCurrent event => exact ⟨congrArg (·.isCurrent event) alike.timers, alike, rfl⟩
  | ticksIn time => exact ⟨congrArg (·.ticksIn time) alike.config, alike, rfl⟩
  | now | note notice => exact ⟨rfl, alike, rfl⟩

/-- A script is played in the same way, and the same things happen. -/
theorem play {α : Type} (alike : Alike left right) (script : Script α) :
    Agree (left.play script world) (right.play script world) ∧
      playHistory script left world = playHistory script right world := by
  induction script generalizing left right world with
  | done result => exact ⟨⟨rfl, alike, rfl⟩, rfl⟩
  | ask service next inductionHypothesis =>
    obtain ⟨answer, reactor, onward⟩ := alike.perform world service
    have later := inductionHypothesis (left.perform service world).1.1
      (left.perform service world).2 reactor
    show Agree (Reactor.play _ _ _) (Reactor.play (next (right.perform service world).1.1) _
        (right.perform service world).2) ∧
      left.core.happenings service ++ playHistory _ _ _ =
        right.core.happenings service ++ playHistory (next (right.perform service world).1.1) _
          (right.perform service world).2
    rw [← answer, ← onward, alike.core]
    exact ⟨later.1, congrArg (right.core.happenings service ++ ·) later.2⟩

variable {Body : Type} [Machine Body]

/-- An event is offered to machines in the same way. -/
theorem offer (alike : Alike left right) (event : Event) (agents : List (Agent Body)) :
    Agree (left.offer event agents world) (right.offer event agents world) := by
  induction agents generalizing left right world with
  | nil => exact ⟨rfl, alike, rfl⟩
  | cons agent rest inductionHypothesis =>
    obtain ⟨answer, reactor, onward⟩ := (alike.play world (agent.dispatch event)).1
    obtain ⟨agents, last, final⟩ :=
      inductionHypothesis (left.play (agent.dispatch event) world).2 reactor
    rw [offer_cons, offer_cons]
    dsimp only
    rw [← answer, ← onward]
    exact ⟨congrArg (_ :: ·) agents, last, final⟩

theorem offerHistory (alike : Alike left right) (event : Event)
    (machines : List (Nat × Agent Body)) :
    Reactor.offerHistory event machines left world =
      Reactor.offerHistory event machines right world := by
  induction machines generalizing left right world with
  | nil => rfl
  | cons machine rest inductionHypothesis =>
    obtain ⟨name, agent⟩ := machine
    obtain ⟨⟨answer, reactor, onward⟩, told⟩ := alike.play world (agent.dispatch event)
    have later := inductionHypothesis (left.play (agent.dispatch event) world).2 reactor
    show _ ++ playHistory (agent.dispatch event) left world ++ Reactor.offerHistory event rest _ _ =
      (if (right.play (agent.dispatch event) world).1.1.1 then _ else _) ++
        playHistory (agent.dispatch event) right world ++
        Reactor.offerHistory event rest _ (right.play (agent.dispatch event) world).2
    rw [← answer, ← onward, told, later]

/-- Events are handed out in the same way, and the same things happen. -/
theorem runPending (alike : Alike left right) (names : List Nat) (budget : Nat)
    (agents : List (Agent Body)) :
    (left.runPending budget agents world).1.1 = (right.runPending budget agents world).1.1 ∧
      (left.runPending budget agents world).1.2.1 = (right.runPending budget agents world).1.2.1 ∧
      Alike (left.runPending budget agents world).1.2.2
        (right.runPending budget agents world).1.2.2 ∧
      (left.runPending budget agents world).2 = (right.runPending budget agents world).2 ∧
      pendingHistory names budget agents left world =
        pendingHistory names budget agents right world := by
  induction budget generalizing left right agents world with
  | zero => exact ⟨rfl, rfl, alike, rfl, rfl⟩
  | succ budget inductionHypothesis =>
    rcases alike.next? with
      ⟨leftNone, rightNone⟩ | ⟨event, leftRest, rightRest, leftSome, rightSome, rest⟩
    · rw [Reactor.runPending, Reactor.runPending, pendingHistory, pendingHistory, leftNone,
        rightNone]
      exact ⟨rfl, rfl, alike, rfl, rfl⟩
    · obtain ⟨offered, reactor, onward⟩ := rest.offer world event agents
      obtain ⟨counted, later, last, final, told⟩ := inductionHypothesis
        (leftRest.offer event agents world).2 reactor (leftRest.offer event agents world).1.1
      rw [runPending_of_next? leftSome, runPending_of_next? rightSome,
        pendingHistory_of_next? leftSome, pendingHistory_of_next? rightSome]
      dsimp only
      rw [← offered, ← onward, rest.offerHistory world event, told]
      exact ⟨congrArg (· + 1) counted, later, last, final, rfl⟩

end Operations

theorem refl (reactor : Reactor queueDepth leftDepth timerCount) : Alike reactor reactor :=
  ⟨rfl, rfl, rfl⟩

theorem trans {middleDepth : Depth} {middle : Reactor queueDepth middleDepth timerCount}
    (first : Alike left middle) (second : Alike middle right) : Alike left right :=
  ⟨first.queue.trans second.queue, first.timers.trans second.timers,
    first.config.trans second.config⟩

theorem symm (alike : Alike left right) : Alike right left :=
  ⟨alike.queue.symm, alike.timers.symm, alike.config.symm⟩

end Alike

variable {traceDepth : Depth} {Body World : Type}

/-! ### What the application learns -/

/-- What a deed gives back to the application. -/
inductive Outcome where
  | published (queued : Bool)
  | started (cookie : Option UInt16)
  | drained (count : Nat)
  | took (event : Option Event)
  | dispatched (given : Bool)
  | nothing
  deriving DecidableEq

/-- What comes of a deed: what it gives back, and all that happens on the reactor. -/
structure Finding where
  outcome : Outcome
  happenings : List Happening
  deriving DecidableEq

/-- Whether the application does something about the trace alone. -/
def Deed.aboutTrace : Deed World → Bool
  | .read | .clear | .editMask _ => true
  | .act _ | .take | .dispatch .. | .trace _ => false

section Machines

variable [Machine Body] [Clock World] [Journal World]

/-- What a move gives back. -/
def Session.outcome (session : Session Body World queueDepth traceDepth timerCount) :
    Move World → Outcome
  | .publish place event =>
    .published (session.reactor.publish place event session.world).1.1
  | .startTimer index ticks =>
    .started (session.reactor.startTimer index ticks session.world).1.1
  | .drain budget =>
    .drained (session.reactor.runPending budget session.agents session.world).1.1
  | .stopTimer _ | .tick | .launch .. | .meanwhile _ => .nothing

namespace Ensemble

def finding (ensemble : Ensemble Body World queueDepth traceDepth timerCount) :
    Deed World → Finding
  | .act act =>
    { outcome := (ensemble.lineup act.members).outcome act.move
      happenings := (ensemble.lineup act.members).happenings act.members act.move }
  | .take =>
    let taken := ensemble.reactor.next?.map Prod.fst
    { outcome := .took taken, happenings := (taken.map .taken).toList }
  | .dispatch name event =>
    let agent := ensemble.agents name
    { outcome := .dispatched (ensemble.reactor.play (agent.dispatch event) ensemble.world).1.1.1
      happenings := offerHistory event [(name, agent)] ensemble.reactor ensemble.world }
  | .trace _ | .read | .clear | .editMask _ => { outcome := .nothing, happenings := [] }

/-- What comes of deeds, those left out that are about the trace alone. -/
def findings (ensemble : Ensemble Body World queueDepth traceDepth timerCount) :
    List (Deed World) → List Finding
  | [] => []
  | deed :: rest =>
    if deed.aboutTrace then (ensemble.step deed).findings rest
    else ensemble.finding deed :: (ensemble.step deed).findings rest

end Ensemble

end Machines

/-! ### Runs that differ in their traces -/

/-- Machines on reactors that differ in nothing but their traces. -/
structure Session.Alike (left : Session Body World queueDepth leftDepth timerCount)
    (right : Session Body World queueDepth rightDepth timerCount) : Prop where
  agents : left.agents = right.agents
  reactor : left.reactor.Alike right.reactor
  world : left.world = right.world

/-- Machines by their names on reactors that differ in nothing but their traces. -/
structure Ensemble.Alike (left : Ensemble Body World queueDepth leftDepth timerCount)
    (right : Ensemble Body World queueDepth rightDepth timerCount) : Prop where
  agents : left.agents = right.agents
  reactor : left.reactor.Alike right.reactor
  world : left.world = right.world

namespace Ensemble.Alike

variable {left : Ensemble Body World queueDepth leftDepth timerCount}
  {right : Ensemble Body World queueDepth rightDepth timerCount}

theorem refl (ensemble : Ensemble Body World queueDepth traceDepth timerCount) :
    Alike ensemble ensemble := ⟨rfl, .refl _, rfl⟩

theorem symm (alike : Alike left right) : Alike right left :=
  ⟨alike.agents.symm, alike.reactor.symm, alike.world.symm⟩

theorem trans {middle : Ensemble Body World queueDepth traceDepth timerCount}
    (first : Alike left middle) (second : Alike middle right) : Alike left right :=
  ⟨first.agents.trans second.agents, first.reactor.trans second.reactor,
    first.world.trans second.world⟩

theorem watched (alike : Alike left right) : Alike left.watched right.watched :=
  ⟨congrArg (fun agents name => (agents name).watched) alike.agents, alike.reactor, alike.world⟩

end Ensemble.Alike

section Runs

variable [Machine Body] [Clock World] [Journal World]

theorem Session.Alike.move {left : Session Body World queueDepth leftDepth timerCount}
    {right : Session Body World queueDepth rightDepth timerCount} (alike : left.Alike right)
    (names : List Nat) (move : Move World) :
    (left.move move).Alike (right.move move) ∧ left.outcome move = right.outcome move ∧
      left.happenings names move = right.happenings names move := by
  obtain ⟨agents, reactor, world⟩ := left
  obtain ⟨_, other, _⟩ := right
  obtain ⟨rfl, alike, rfl⟩ := alike
  simp only at alike
  cases move with
  | publish place event =>
    have agree := alike.publish world place event
    exact ⟨⟨rfl, agree.reactor, agree.world⟩, congrArg Outcome.published agree.answer,
      congrArg (Core.happenings (.publish place event)) alike.core⟩
  | startTimer index ticks =>
    have agree := alike.startTimer world index ticks
    exact ⟨⟨rfl, agree.reactor, agree.world⟩, congrArg Outcome.started agree.answer,
      congrArg (Core.happenings (.startTimer index ticks)) alike.core⟩
  | stopTimer index =>
    obtain ⟨after, onward⟩ := alike.stopTimer world index
    exact ⟨⟨rfl, after, onward⟩, rfl, congrArg (Core.happenings (.stopTimer index)) alike.core⟩
  | tick =>
    obtain ⟨after, onward⟩ := alike.tick world
    exact ⟨⟨rfl, after, onward⟩, rfl, congrArg Core.tickHappenings alike.core⟩
  | drain budget =>
    obtain ⟨counted, later, last, final, told⟩ := alike.runPending world names budget agents
    exact ⟨⟨later, last, final⟩, congrArg Outcome.drained counted, told⟩
  | launch place id =>
    unfold Session.move Session.happenings
    dsimp only
    cases agents[place]? with
    | none => exact ⟨⟨rfl, alike, rfl⟩, rfl, rfl⟩
    | some agent =>
      obtain ⟨⟨answer, after, onward⟩, told⟩ := alike.play world (agent.start id)
      exact ⟨⟨congrArg (agents.set place) answer, after, onward⟩, rfl, told⟩
  | meanwhile change => exact ⟨⟨rfl, alike, rfl⟩, rfl, rfl⟩

namespace Ensemble.Alike

variable {left : Ensemble Body World queueDepth leftDepth timerCount}
  {right : Ensemble Body World queueDepth rightDepth timerCount}

/-- What is about the trace alone changes nothing else. -/
theorem step_of_aboutTrace (alike : Alike left right) {deed : Deed World}
    (about : deed.aboutTrace = true) : Alike (left.step deed) right := by
  cases deed with
  | read =>
    unfold step
    cases left.reactor.trace.read? <;>
      exact ⟨alike.agents, ⟨alike.reactor.queue, alike.reactor.timers, alike.reactor.config⟩,
        alike.world⟩
  | clear | editMask edit =>
    exact ⟨alike.agents, ⟨alike.reactor.queue, alike.reactor.timers, alike.reactor.config⟩,
      alike.world⟩
  | _ => cases about

/-- Any other deed does the same and gives the same. -/
theorem step (alike : Alike left right) {deed : Deed World} (other : deed.aboutTrace = false) :
    Alike (left.step deed) (right.step deed) ∧ left.finding deed = right.finding deed := by
  obtain ⟨agents, reactor, world⟩ := left
  obtain ⟨_, another, _⟩ := right
  obtain ⟨rfl, alike, rfl⟩ := alike
  simp only at alike
  cases deed with
  | act act =>
    have lined : Session.Alike (Ensemble.lineup act.members ⟨agents, reactor, world⟩)
        (Ensemble.lineup act.members ⟨agents, another, world⟩) := ⟨rfl, alike, rfl⟩
    obtain ⟨moved, outcome, happenings⟩ := lined.move act.members act.move
    refine ⟨⟨?_, moved.reactor, moved.world⟩, ?_⟩
    · exact congrArg (fun (now : List (Agent Body)) name =>
        ((act.members.zip now).lookup name).getD (agents name)) moved.agents
    · rw [finding, outcome, happenings]
      rfl
  | take =>
    unfold Ensemble.step finding
    rcases alike.next? with ⟨none, also⟩ | ⟨event, rest, otherRest, some, also, after⟩
    · simp only [none, also]
      exact ⟨⟨rfl, alike, rfl⟩, rfl⟩
    · simp only [some, also]
      exact ⟨⟨rfl, after, rfl⟩, rfl⟩
  | dispatch name event =>
    obtain ⟨answer, after, onward⟩ := (alike.play world ((agents name).dispatch event)).1
    refine ⟨⟨?_, after, onward⟩, ?_⟩
    · exact congrArg (fun now : Bool × Agent Body => Function.update agents name now.2) answer
    · rw [finding, finding, alike.offerHistory world event]
      dsimp only
      rw [answer]
  | trace event => exact ⟨⟨rfl, ⟨alike.queue, alike.timers, alike.config⟩, rfl⟩, rfl⟩
  | read | clear | editMask => cases other

/-- A run goes as it does without what is about the trace alone. -/
theorem live_filter (alike : Alike left right) (deeds : List (Deed World)) :
    Alike (left.live deeds) (right.live (deeds.filter (!·.aboutTrace))) ∧
      left.findings deeds = right.findings (deeds.filter (!·.aboutTrace)) := by
  induction deeds generalizing left right with
  | nil => exact ⟨alike, rfl⟩
  | cons deed rest inductionHypothesis =>
    rw [findings]
    cases about : deed.aboutTrace with
    | true =>
      rw [List.filter_cons_of_neg (by simp [about]), if_pos rfl]
      exact inductionHypothesis (alike.step_of_aboutTrace about)
    | false =>
      obtain ⟨stepped, found⟩ := alike.step about
      obtain ⟨later, foundLater⟩ := inductionHypothesis stepped
      rw [List.filter_cons_of_pos (by simp [about]), if_neg Bool.false_ne_true, findings, about,
        if_neg Bool.false_ne_true, found, foundLater]
      exact ⟨later, rfl⟩

theorem live (alike : Alike left right) {leftDeeds rightDeeds : List (Deed World)}
    (same : leftDeeds.filter (!·.aboutTrace) = rightDeeds.filter (!·.aboutTrace)) :
    Alike (left.live leftDeeds) (right.live rightDeeds) ∧
      left.findings leftDeeds = right.findings rightDeeds := by
  obtain ⟨first, found⟩ := alike.live_filter leftDeeds
  obtain ⟨second, foundAlso⟩ := (refl right).live_filter rightDeeds
  rw [same] at first found
  exact ⟨first.trans second.symm, found.trans foundAlso.symm⟩

end Ensemble.Alike

/-! ### Tracing never perturbs the program -/

/-- What it means that a run goes the same way as another. Both are run in recorded worlds. -/
structure SameProgram (left : Ensemble Body (Recorded World) queueDepth leftDepth timerCount)
    (leftDeeds : List (Deed (Recorded World)))
    (right : Ensemble Body (Recorded World) queueDepth rightDepth timerCount)
    (rightDeeds : List (Deed (Recorded World))) : Prop where
  /-- The application gets the same answers, and the same things happen in the same order: events
  are published and refused, timers started, stopped and run out, events taken and given to
  machines. -/
  findings : left.findings leftDeeds = right.findings rightDeeds
  /-- Each machine is given the same events, and gets the same answers to what it asks for. -/
  deliveries : ∀ name, ((left.watched.live leftDeeds).agents name).body.log =
    ((right.watched.live rightDeeds).agents name).body.log
  /-- The machines come to be in the same states. -/
  agents : (left.live leftDeeds).agents = (right.live rightDeeds).agents
  /-- The same events wait, and the timers have the same entries and cookies. -/
  reactor : (left.live leftDeeds).reactor.Alike (right.live rightDeeds).reactor
  /-- The world has become the same, and was asked the same. -/
  world : (left.live leftDeeds).world = (right.live rightDeeds).world
  /-- So the clock was read as often. -/
  readings : (left.live leftDeeds).world.readings = (right.live rightDeeds).world.readings

/-- Reactors that differ in nothing but their traces go the same way, whether or not the application
reads the trace, clears it or edits its mask. -/
theorem tracing_never_perturbs
    {left : Ensemble Body (Recorded World) queueDepth leftDepth timerCount}
    {right : Ensemble Body (Recorded World) queueDepth rightDepth timerCount}
    (alike : left.Alike right) {leftDeeds rightDeeds : List (Deed (Recorded World))}
    (same : leftDeeds.filter (!·.aboutTrace) = rightDeeds.filter (!·.aboutTrace)) :
    SameProgram left leftDeeds right rightDeeds := by
  obtain ⟨last, findings⟩ := alike.live same
  have watched := (alike.watched.live same).1
  exact ⟨findings, fun name => congrArg (fun agents => (agents name).body.log) watched.agents,
    last.agents, last.reactor, last.world, congrArg Recorded.readings last.world⟩

end Runs

/-- A supervisor that nothing has happened to, on a clock that moves with every reading. -/
def recruit (traceDepth : Depth) :
    Ensemble Supervisor (Recorded (Sim.Bench Sim.Wire)) Node.queueDepth traceDepth 1 where
  agents _ := { body := {} }
  reactor := .idle {}
  world := { world := { line := {}, clock := { step := 600 } } }

/-- The supervisor is put into its first state and handed what waits. Then the application traces a
sign of the master, and publishes one. -/
def muster : List (Deed (Recorded (Sim.Bench Sim.Wire))) :=
  [.act { members := [0], move := .launch 0 1 }, .act { members := [0], move := .drain 4 },
    .trace Supervisor.masterComms,
    .act { members := [0], move := .publish .back Supervisor.masterComms }]

/-- The same, with everything traced. -/
def tracedMuster : List (Deed (Recorded (Sim.Bench Sim.Wire))) :=
  .editMask (·.enableBelow 64) :: muster ++ [.read, .clear, .read]

/-- The supervisor goes the same way on a reactor that traces everything. -/
theorem muster_unperturbed :
    (recruit ⟨0⟩).Alike (recruit ⟨3⟩) ∧
      muster.filter (!·.aboutTrace) = tracedMuster.filter (!·.aboutTrace) ∧
      SameProgram (recruit ⟨0⟩) muster (recruit ⟨3⟩) tracedMuster ∧
      ((recruit ⟨3⟩).live (tracedMuster.take 4)).reactor.trace.length = 3 ∧
      ((recruit ⟨0⟩).live muster).reactor.trace.length = 0 ∧
      ((recruit ⟨0⟩).live muster).world.readings = 4 := by
  have alike : (recruit ⟨0⟩).Alike (recruit ⟨3⟩) := ⟨rfl, ⟨rfl, rfl, rfl⟩, rfl⟩
  have same : muster.filter (!·.aboutTrace) = tracedMuster.filter (!·.aboutTrace) := rfl
  exact ⟨alike, same, tracing_never_perturbs alike same, by decide +kernel, by decide +kernel,
    by decide +kernel⟩

end Reactor

end BusNode
