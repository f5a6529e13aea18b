/-
This file proves that a machine sees well-bracketed transitions. Whatever is done with a reactor and
its machines, one machine is visited now and then: it is put into its first state, or it is offered
an event. An event that is held back does not reach it and changes nothing. Any other is given to it
once, in its state. If it asks to move, it is given the exit from that state and the entry into the
next one before anything else, the trace is offered one mark between the two, and what it answers to
them is ignored. Nothing touches the machine from one visit to the next.

The machine may do anything else, such as to publish events at either end of the queue while it
leaves a state, but it does not write its own context.
-/
import BusNode.Node
import BusNode.Proofs.Reactor.Chronicle
import BusNode.Proofs.Reactor.Sparing
import BusNode.Proofs.Reactor.Turnover
import BusNode.Proofs.Reactor.Watched
import BusNode.Sim.Bench
import BusNode.Sim.Wire
import BusNode.Supervisor

namespace BusNode.Reactor

variable {queueDepth traceDepth : Depth} {timerCount : Nat}

/-! ### Visits -/

/-- Why a machine is visited. -/
inductive Summons where
  /-- It is put into its first state, under an id. -/
  | launched (id : UInt8)
  | offered (event : Event)
  deriving DecidableEq

/-- A visit to a machine: the machine and the reactor before and after it, and all that was asked of
the reactor meanwhile. -/
structure Visit (Body : Type) (queueDepth traceDepth : Depth) (timerCount : Nat) where
  summons : Summons
  before : Agent Body
  after : Agent Body
  reactor : Reactor queueDepth traceDepth timerCount
  onward : Reactor queueDepth traceDepth timerCount
  asked : List Inquiry

/-- Whether an event must not reach a machine: it is a timeout whose timer was stopped or started
again since, or another machine has sent it to itself. -/
def Withheld {Body : Type} (event : Event) (agent : Agent Body)
    (reactor : Reactor queueDepth traceDepth timerCount) : Prop :=
  event.id = Event.timerId ∧ reactor.timers.isCurrent event = false ∨
    event.id = Event.selfId ∧ event.p8 ≠ agent.context.id

/-- What is asked to find out whether a machine may be given an event. -/
def gate (event : Event) (admitted : Bool) : List Inquiry :=
  if event.id = Event.timerId then
    if admitted then [⟨.isCurrent event, true⟩]
    else [⟨.isCurrent event, false⟩, ⟨.note (.staleTimeout event.p8 event.p16), ()⟩]
  else []

variable {Body : Type}

/-- The ways in which a visit may go. -/
inductive Visit.Bracketed (visit : Visit (Watched Body) queueDepth traceDepth timerCount) :
    Prop where
  /-- The machine enters its first state. -/
  | launched {id : UInt8} {entering : List Inquiry} {answer : Transition}
      (summons : visit.summons = .launched id)
      (log : visit.after.body.log = visit.before.body.log ++ [⟨0, .entry, entering, answer⟩])
      (context : visit.after.context = { state := 0, id })
      (asked : visit.asked = ⟨.note (.machineStarted id), ()⟩ :: entering)
  /-- The event is held back. -/
  | heldBack {event : Event} (summons : visit.summons = .offered event)
      (withheld : Withheld event visit.before visit.reactor)
      (agent : visit.after = visit.before) (reactor : visit.onward = visit.reactor)
      (asked : visit.asked = gate event false)
  /-- The machine is given the event and stays in its state. -/
  | stayed {event : Event} {handling : List Inquiry} (summons : visit.summons = .offered event)
      (admitted : ¬ Withheld event visit.before visit.reactor)
      (log : visit.after.body.log =
        visit.before.body.log ++ [⟨visit.before.context.state, event, handling, .stay⟩])
      (context : visit.after.context = visit.before.context)
      (asked : visit.asked = gate event true ++ handling)
  /-- The machine is given the event and moves. -/
  | moved {event : Event} {state : UInt8} {handling leaving entering : List Inquiry}
      {left entered : Transition} (summons : visit.summons = .offered event)
      (admitted : ¬ Withheld event visit.before visit.reactor)
      (log : visit.after.body.log =
        visit.before.body.log ++
          [⟨visit.before.context.state, event, handling, .moveTo state⟩,
            ⟨visit.before.context.state, .exit, leaving, left⟩,
            ⟨state, .entry, entering, entered⟩])
      (context : visit.after.context = { visit.before.context with state })
      (asked : visit.asked = gate event true ++ handling ++ leaving ++
        [⟨.trace (.stateChange visit.before.context.id state), ()⟩,
          ⟨.note (.stateChanged visit.before.context.id visit.before.context.state state), ()⟩] ++
        entering)

/-- A machine is visited time after time, and is left alone in between. -/
inductive Rounds : Agent (Watched Body) →
    List (Visit (Watched Body) queueDepth traceDepth timerCount) → Agent (Watched Body) →
    Prop where
  | rest {agent : Agent (Watched Body)} : Rounds agent [] agent
  | visit {visit : Visit (Watched Body) queueDepth traceDepth timerCount}
      {later : List (Visit (Watched Body) queueDepth traceDepth timerCount)}
      {last : Agent (Watched Body)} (bracketed : visit.Bracketed)
      (rest : Rounds visit.after later last) : Rounds visit.before (visit :: later) last

theorem Rounds.trans {agent middle last : Agent (Watched Body)}
    {visits later : List (Visit (Watched Body) queueDepth traceDepth timerCount)}
    (first : Rounds agent visits middle) (rest : Rounds middle later last) :
    Rounds agent (visits ++ later) last := by
  induction first with
  | rest => exact rest
  | visit bracketed _ inductionHypothesis => exact .visit bracketed (inductionHypothesis rest)

/-! ### One visit -/

section Machines

variable {World : Type} [Machine Body] [Clock World] [Journal World]

/-- What a kind of machines does that do not write their own context. Other machines may. -/
def Steadfast (kind : Body → Prop) : Prop :=
  ∀ (event : Event) (agent : Agent Body), kind agent.body →
    (Machine.handle event agent).Keeps (fun _ => True) fun result =>
      result.2.context = agent.context ∧ kind result.2.body

/-- A visit for an event. -/
def Visit.offer (event : Event) (agent : Agent Body)
    (reactor : Reactor queueDepth traceDepth timerCount) (world : World) :
    Visit Body queueDepth traceDepth timerCount where
  summons := .offered event
  before := agent
  after := (reactor.play (agent.dispatch event) world).1.1.2
  reactor
  onward := (reactor.play (agent.dispatch event) world).1.2
  asked := transcript (agent.dispatch event) reactor world

/-- A visit to put a machine into its first state. -/
def Visit.launch (id : UInt8) (agent : Agent Body)
    (reactor : Reactor queueDepth traceDepth timerCount) (world : World) :
    Visit Body queueDepth traceDepth timerCount where
  summons := .launched id
  before := agent
  after := (reactor.play (agent.start id) world).1.1
  reactor
  onward := (reactor.play (agent.start id) world).1.2
  asked := transcript (agent.start id) reactor world

section Laws

variable {kind : Body → Prop} (steadfast : Steadfast kind)

include steadfast

/-- A machine that is given an event writes it down, with what it asked for. -/
theorem Steadfast.handled (event : Event) {agent : Agent (Watched Body)}
    (known : kind agent.body.body) (reactor : Reactor queueDepth traceDepth timerCount)
    (world : World) :
    ∃ asked answer after onward later,
      reactor.play (Machine.handle event agent) world =
          (((answer, agent.noting event asked answer after), onward), later) ∧
        transcript (Machine.handle event agent) reactor world = asked ∧
        after.context = agent.context ∧ kind after.body := by
  have kept : _ ∧ ∀ happening ∈ playHistory _ reactor world, True :=
    keeps_play (steadfast event agent.bare known) (fun _ _ _ _ _ => trivial) reactor world
  exact ⟨_, _, _, _, _, play_handle_watched event agent reactor world,
    transcript_handle_watched event agent reactor world, kept.1.1, kept.1.2⟩

theorem Steadfast.notified (event : Event) {agent : Agent (Watched Body)}
    (known : kind agent.body.body) (reactor : Reactor queueDepth traceDepth timerCount)
    (world : World) :
    ∃ asked answer after onward later,
      reactor.play (agent.notify event) world =
          ((agent.noting event asked answer after, onward), later) ∧
        transcript (agent.notify event) reactor world = asked ∧
        after.context = agent.context ∧ kind after.body := by
  obtain ⟨asked, answer, after, onward, later, played, heard, kept⟩ :=
    steadfast.handled event known reactor world
  refine ⟨asked, answer, after, onward, later, ?_, ?_, kept⟩
  · rw [play_notify, played]
  · rw [Agent.notify, transcript_bind, heard]
    exact List.append_nil asked

theorem Steadfast.launched (id : UInt8) {agent : Agent (Watched Body)}
    (known : kind agent.body.body) (reactor : Reactor queueDepth traceDepth timerCount)
    (world : World) :
    (Visit.launch id agent reactor world).Bracketed ∧
      kind (Visit.launch id agent reactor world).after.body.body := by
  let entered : Agent (Watched Body) := { agent with context := { state := 0, id } }
  have knows : kind entered.body.body := known
  obtain ⟨asked, answer, after, onward, later, played, heard, context, kept⟩ :=
    steadfast.notified .entry knows reactor (Journal.note (.machineStarted id) world).2
  have result : reactor.play (agent.start id) world =
      ((entered.noting .entry asked answer after, onward), later) := played
  have transcribed : transcript (agent.start id) reactor world =
      ⟨.note (.machineStarted id), ()⟩ :: asked :=
    congrArg (List.cons (Inquiry.mk (.note (.machineStarted id)) ())) heard
  have visited : (Visit.launch id agent reactor world).after =
      entered.noting .entry asked answer after := congrArg (·.1.1) result
  refine ⟨.launched rfl (congrArg (·.body.log) visited)
    ((congrArg (·.context) visited).trans context) transcribed, ?_⟩
  rw [visited]
  exact kept

omit steadfast [Machine Body] in
theorem transcript_admits (event : Event) (agent : Agent Body)
    (reactor : Reactor queueDepth traceDepth timerCount) (world : World) :
    transcript (agent.admits event) reactor world =
      gate event (reactor.core.admits event agent) := by
  unfold Agent.admits Core.admits gate
  by_cases timeout : event.id = Event.timerId
  · rw [if_pos timeout, if_pos timeout, if_pos timeout]
    show Inquiry.mk (.isCurrent event) (reactor.timers.isCurrent event) ::
      transcript (if reactor.timers.isCurrent event = true then _ else _) reactor world = _
    show _ = if reactor.timers.isCurrent event = true then _ else _
    cases reactor.timers.isCurrent event with
    | true => rfl
    | false => rfl
  · rw [if_neg timeout, if_neg timeout]
    rfl

omit steadfast [Machine Body] in
theorem admits_eq_false_iff (event : Event) (agent : Agent Body)
    (reactor : Reactor queueDepth traceDepth timerCount) :
    reactor.core.admits event agent = false ↔ Withheld event agent reactor := by
  unfold Core.admits Withheld
  by_cases timeout : event.id = Event.timerId
  · rw [if_pos timeout]
    constructor
    · exact fun stale => .inl ⟨timeout, stale⟩
    · rintro (⟨-, stale⟩ | ⟨own, -⟩)
      · exact stale
      · exact absurd (timeout.symm.trans own) (by decide)
  · simp [timeout]

theorem Steadfast.moved (state : UInt8) {agent : Agent (Watched Body)}
    (known : kind agent.body.body) (reactor : Reactor queueDepth traceDepth timerCount)
    (world : World) :
    ∃ leaving left entering entered last onward later,
      reactor.play (agent.moveTo state) world = ((last, onward), later) ∧
        last.body.log = agent.body.log ++
          [⟨agent.context.state, .exit, leaving, left⟩, ⟨state, .entry, entering, entered⟩] ∧
        last.context = { agent.context with state } ∧ kind last.body.body ∧
        transcript (agent.moveTo state) reactor world = leaving ++
          [⟨.trace (.stateChange agent.context.id state), ()⟩,
            ⟨.note (.stateChanged agent.context.id agent.context.state state), ()⟩] ++
          entering := by
  obtain ⟨leaving, left, ⟨_, gone⟩, middle, between, exits, heardExit, rfl, keptExit⟩ :=
    steadfast.notified .exit known reactor world
  let arriving : Agent (Watched Body) :=
    { agent.noting .exit leaving left ⟨agent.context, gone⟩ with
      context := { agent.context with state } }
  let marked := middle.traceEvent (.stateChange agent.context.id state) between
  have knows : kind arriving.body.body := keptExit
  obtain ⟨entering, entered, come, onward, later, enters, heardEntry, settled, keptEntry⟩ :=
    steadfast.notified .entry knows marked.1
      (Journal.note (.stateChanged agent.context.id agent.context.state state) marked.2).2
  refine ⟨leaving, left, entering, entered, arriving.noting .entry entering entered come, onward,
    later, ?_, List.append_assoc _ _ _, settled, keptEntry, ?_⟩
  · rw [Agent.moveTo, play_bind, exits]
    exact enters
  · rw [Agent.moveTo, transcript_bind, exits, heardExit, List.append_assoc]
    exact congrArg (fun rest => leaving ++ Inquiry.mk (.trace _) () ::
      Inquiry.mk (.note _) () :: rest) heardEntry

omit steadfast in
/-- An event that is held back changes nothing. -/
theorem dispatch_of_withheld {event : Event} {agent : Agent Body}
    {reactor : Reactor queueDepth traceDepth timerCount} (withheld : Withheld event agent reactor)
    (world : World) :
    (reactor.play (agent.dispatch event) world).1 = ((false, agent), reactor) ∧
      transcript (agent.dispatch event) reactor world = gate event false := by
  have refused := (admits_eq_false_iff event agent reactor).mpr withheld
  obtain ⟨-, answer, -⟩ := play_admits event agent reactor world
  have asked := transcript_admits event agent reactor world
  rw [Agent.dispatch, play_bind, transcript_bind, answer, asked, refused]
  exact ⟨rfl, List.append_nil _⟩

omit steadfast in
/-- Any other event is delivered. -/
theorem dispatch_of_not_withheld {event : Event} {agent : Agent Body}
    {reactor : Reactor queueDepth traceDepth timerCount}
    (admitted : ¬ Withheld event agent reactor) (world : World) :
    reactor.play (agent.dispatch event) world =
        (reactor.play (agent.deliver event) world).map (Prod.map (Prod.mk true) id) id ∧
      transcript (agent.dispatch event) reactor world =
        gate event true ++ transcript (agent.deliver event) reactor world := by
  have allowed : reactor.core.admits event agent = true :=
    Bool.not_eq_false _ ▸ mt (admits_eq_false_iff event agent reactor).mp admitted
  obtain ⟨-, answer, still⟩ := play_admits event agent reactor world
  have asked := transcript_admits event agent reactor world
  rw [Agent.dispatch, play_bind, transcript_bind, answer, asked, still allowed, allowed,
    if_pos rfl, play_bind, transcript_bind]
  exact ⟨rfl, congrArg (gate event true ++ ·) (List.append_nil _)⟩

theorem Steadfast.offered (event : Event) {agent : Agent (Watched Body)}
    (known : kind agent.body.body) (reactor : Reactor queueDepth traceDepth timerCount)
    (world : World) :
    (Visit.offer event agent reactor world).Bracketed ∧
      kind (Visit.offer event agent reactor world).after.body.body := by
  by_cases withheld : Withheld event agent reactor
  · obtain ⟨played, asked⟩ := dispatch_of_withheld withheld world
    refine ⟨.heldBack rfl withheld ?_ ?_ asked, ?_⟩ <;> simp only [Visit.offer, played]
    exact known
  · obtain ⟨played, asked⟩ := dispatch_of_not_withheld withheld world
    obtain ⟨handling, answer, ⟨_, body⟩, onward, later, handles, heard, rfl, kept⟩ :=
      steadfast.handled event known reactor world
    rw [Agent.deliver, play_bind, handles] at played
    rw [Agent.deliver, transcript_bind, handles, heard] at asked
    cases answer with
    | stay =>
      have visited : (Visit.offer event agent reactor world).after =
          agent.noting event handling .stay ⟨agent.context, body⟩ := congrArg (·.1.1.2) played
      refine ⟨.stayed rfl withheld (congrArg (·.body.log) visited)
        (congrArg (·.context) visited) (asked.trans (congrArg _ (List.append_nil handling))), ?_⟩
      rw [visited]
      exact kept
    | moveTo state =>
      let given := agent.noting event handling (.moveTo state) ⟨agent.context, body⟩
      obtain ⟨leaving, left, entering, entered, last, after, final, moves, log, context, kept,
        told⟩ := steadfast.moved state (show kind given.body.body from kept) onward later
      have whole : reactor.play (agent.dispatch event) world = (((true, last), after), final) :=
        played.trans (congrArg (Prod.map (Prod.map (Prod.mk true) id) id) moves)
      have logged : last.body.log = agent.body.log ++
          [⟨agent.context.state, event, handling, .moveTo state⟩,
            ⟨agent.context.state, .exit, leaving, left⟩, ⟨state, .entry, entering, entered⟩] :=
        log.trans (List.append_assoc _ _ _)
      have talked : transcript (agent.dispatch event) reactor world =
          gate event true ++ handling ++ leaving ++
            [⟨.trace (.stateChange agent.context.id state), ()⟩,
              ⟨.note (.stateChanged agent.context.id agent.context.state state), ()⟩] ++
            entering := by
        refine asked.trans ?_
        refine (congrArg (fun rest => gate event true ++ (handling ++ rest)) told).trans ?_
        simp only [List.append_assoc]
        rfl
      have visited : (Visit.offer event agent reactor world).after = last :=
        congrArg (·.1.1.2) whole
      refine ⟨.moved rfl withheld ((congrArg (·.body.log) visited).trans logged)
        ((congrArg (·.context) visited).trans context) talked, ?_⟩
      rw [visited]
      exact kept

end Laws

/-! ### Events that are taken -/

/-- The event that is taken from the queue, if one is. -/
def Happening.taken? : Happening → Option Event
  | taken event => some event
  | _ => none

/-- No service takes an event from the queue. -/
theorem taken?_happenings (service : Service) (core : Core queueDepth timerCount) :
    (core.happenings service).filterMap Happening.taken? = [] := by
  have rings (emissions : List Emission) (core : Core queueDepth timerCount) :
      (core.rings emissions).filterMap Happening.taken? = [] := by
    induction emissions generalizing core with
    | nil => rfl
    | cons emission rest inductionHypothesis =>
      cases emission <;> exact inductionHypothesis _
  cases service with
  | startTimer index ticks =>
    rw [Core.happenings]
    cases core.timers.start? index ticks with
    | none => rfl
    | some started => exact rings started.2.1 _
  | stopTimer index => exact rings _ _
  | _ => rfl

theorem taken?_playHistory {α : Type} (script : Script α)
    (reactor : Reactor queueDepth traceDepth timerCount) (world : World) :
    (playHistory script reactor world).filterMap Happening.taken? = [] := by
  induction script generalizing reactor world with
  | done result => rfl
  | ask service next inductionHypothesis =>
    rw [playHistory, List.filterMap_append, taken?_happenings, inductionHypothesis]
    rfl

theorem taken?_offerHistory (event : Event) (machines : List (Nat × Agent Body))
    (reactor : Reactor queueDepth traceDepth timerCount) (world : World) :
    (offerHistory event machines reactor world).filterMap Happening.taken? = [] := by
  induction machines generalizing reactor world with
  | nil => rfl
  | cons machine rest inductionHypothesis =>
    obtain ⟨name, agent⟩ := machine
    have mark : (if (reactor.play (agent.dispatch event) world).1.1.1 then
        [Happening.given name event] else []).filterMap Happening.taken? = [] := by
      split <;> rfl
    have parts : offerHistory event ((name, agent) :: rest) reactor world = _ ++ _ ++ _ := rfl
    rw [parts, List.filterMap_append, List.filterMap_append, mark, taken?_playHistory,
      inductionHypothesis]
    rfl

theorem taken?_pendingHistory {event : Event}
    {reactor rest : Reactor queueDepth traceDepth timerCount}
    (next : reactor.next? = some (event, rest)) (names : List Nat) (budget : Nat)
    (agents : List (Agent Body)) (world : World) :
    (pendingHistory names (budget + 1) agents reactor world).filterMap Happening.taken? =
      let offered := rest.offer event agents world
      event :: (pendingHistory names budget offered.1.1 offered.1.2 offered.2).filterMap
        Happening.taken? := by
  rw [pendingHistory_of_next? next]
  have offered := taken?_offerHistory event (names.zip agents) rest world
  show event :: List.filterMap _ (offerHistory event (names.zip agents) rest world ++ _) = _
  rw [List.filterMap_append, offered, List.nil_append]

/-! ### Visits in a drain -/

/-- The visits to a machine when an event is offered to machines. -/
def offerVisits (watched : Nat) (event : Event) :
    List (Nat × Agent Body) → Reactor queueDepth traceDepth timerCount → World →
      List (Visit Body queueDepth traceDepth timerCount)
  | [], _, _ => []
  | (name, agent) :: rest, reactor, world =>
    let played := reactor.play (agent.dispatch event) world
    (if name = watched then [Visit.offer event agent reactor world] else []) ++
      offerVisits watched event rest played.1.2 played.2

/-- The visits to a machine when events are handed out. -/
def pendingVisits (watched : Nat) (names : List Nat) :
    Nat → List (Agent Body) → Reactor queueDepth traceDepth timerCount → World →
      List (Visit Body queueDepth traceDepth timerCount)
  | 0, _, _, _ => []
  | budget + 1, agents, reactor, world =>
    match reactor.next? with
    | none => []
    | some (event, reactor) =>
      let offered := reactor.offer event agents world
      offerVisits watched event (names.zip agents) reactor world ++
        pendingVisits watched names budget offered.1.1 offered.1.2 offered.2

theorem offerVisits_of_not_mem {watched : Nat} {event : Event} {machines : List (Nat × Agent Body)}
    (absent : watched ∉ machines.map Prod.fst)
    (reactor : Reactor queueDepth traceDepth timerCount) (world : World) :
    offerVisits watched event machines reactor world = [] := by
  induction machines generalizing reactor world with
  | nil => rfl
  | cons machine rest inductionHypothesis =>
    obtain ⟨name, agent⟩ := machine
    obtain ⟨different, elsewhere⟩ := not_or.mp (mt List.mem_cons.mpr absent)
    rw [offerVisits, if_neg (Ne.symm different)]
    exact inductionHypothesis elsewhere _ _

theorem pendingVisits_of_not_mem {watched : Nat} {names : List Nat} (absent : watched ∉ names)
    (budget : Nat) (agents : List (Agent Body))
    (reactor : Reactor queueDepth traceDepth timerCount) (world : World) :
    pendingVisits watched names budget agents reactor world = [] := by
  induction budget generalizing agents reactor world with
  | zero => rfl
  | succ budget inductionHypothesis =>
    rw [pendingVisits]
    cases reactor.next? with
    | none => rfl
    | some pair =>
      exact List.append_eq_nil_iff.mpr
        ⟨offerVisits_of_not_mem (not_mem_named absent agents) pair.2 world,
          inductionHypothesis _ _ _⟩

/-- A machine of a kind goes through visits for the given reasons, and stays of that kind. -/
structure Visited (kind : Body → Prop) (agent : Agent (Watched Body)) (summons : List Summons)
    (visits : List (Visit (Watched Body) queueDepth traceDepth timerCount))
    (after : Agent (Watched Body)) : Prop where
  rounds : Rounds agent visits after
  known : kind after.body.body
  summoned : visits.map Visit.summons = summons

namespace Visited

variable {kind : Body → Prop} {agent middle after : Agent (Watched Body)}
  {summons laterSummons : List Summons}
  {visits later : List (Visit (Watched Body) queueDepth traceDepth timerCount)}

omit [Machine Body] in
theorem rest (known : kind agent.body.body) :
    Visited kind agent [] ([] : List (Visit (Watched Body) queueDepth traceDepth timerCount))
      agent := ⟨.rest, known, rfl⟩

omit [Machine Body] in
theorem single {visit : Visit (Watched Body) queueDepth traceDepth timerCount}
    (bracketed : visit.Bracketed) (known : kind visit.after.body.body) :
    Visited kind visit.before [visit.summons] [visit] visit.after :=
  ⟨.visit bracketed .rest, known, rfl⟩

omit [Machine Body] in
theorem trans (first : Visited kind agent summons visits middle)
    (second : Visited kind middle laterSummons later after) :
    Visited kind agent (summons ++ laterSummons) (visits ++ later) after where
  rounds := first.rounds.trans second.rounds
  known := second.known
  summoned := by rw [List.map_append, first.summoned, second.summoned]

end Visited

section Drains

variable {kind : Body → Prop} (steadfast : Steadfast kind) {watched : Nat}
  {agent : Agent (Watched Body)} (known : kind agent.body.body)

include steadfast known

/-- A machine among others is visited once for an event. -/
theorem visited_offer (event : Event) {machines : List (Nat × Agent (Watched Body))} {place : Nat}
    (distinct : (machines.map Prod.fst).Nodup) (there : machines[place]? = some (watched, agent))
    (reactor : Reactor queueDepth traceDepth timerCount) (world : World) :
    ∃ after, (reactor.offer event (machines.map Prod.snd) world).1.1[place]? = some after ∧
      Visited kind agent [.offered event] (offerVisits watched event machines reactor world)
        after := by
  induction machines generalizing place reactor world with
  | nil => cases there
  | cons machine rest inductionHypothesis =>
    obtain ⟨name, other⟩ := machine
    obtain ⟨apart, distinct⟩ := List.nodup_cons.mp distinct
    cases place with
    | zero =>
      obtain ⟨rfl, rfl⟩ := Prod.mk.inj (Option.some.inj there)
      obtain ⟨bracketed, kept⟩ := steadfast.offered event known reactor world
      refine ⟨_, rfl, ?_⟩
      rw [offerVisits, if_pos rfl, offerVisits_of_not_mem apart]
      exact .single bracketed kept
    | succ place =>
      have different : name ≠ watched := by
        rintro rfl
        exact apart (List.mem_map.mpr ⟨_, List.mem_of_getElem? there, rfl⟩)
      rw [offerVisits, if_neg different]
      exact inductionHypothesis distinct there _ _

/-- A machine that takes part in a drain is visited once for each event that is taken. -/
theorem visited_pending (budget : Nat) {names : List Nat} {agents : List (Agent (Watched Body))}
    {place : Nat} (distinct : names.Nodup) (each : names.length = agents.length)
    (named : names[place]? = some watched) (there : agents[place]? = some agent)
    (reactor : Reactor queueDepth traceDepth timerCount) (world : World) :
    ∃ after, (reactor.runPending budget agents world).1.2.1[place]? = some after ∧
      Visited kind agent
        (((pendingHistory names budget agents reactor world).filterMap Happening.taken?).map
          .offered)
        (pendingVisits watched names budget agents reactor world) after := by
  induction budget generalizing agents agent reactor world with
  | zero => exact ⟨agent, there, .rest known⟩
  | succ budget inductionHypothesis =>
    cases next : reactor.next? with
    | none =>
      rw [runPending, pendingVisits, pendingHistory, next]
      exact ⟨agent, there, .rest known⟩
    | some taken =>
      obtain ⟨event, rest⟩ := taken
      have firsts : (names.zip agents).map Prod.fst = names :=
        List.map_fst_zip (Nat.le_of_eq each)
      have seconds : (names.zip agents).map Prod.snd = agents :=
        List.map_snd_zip (Nat.le_of_eq each.symm)
      obtain ⟨middle, found, first⟩ := visited_offer steadfast known event (firsts.symm ▸ distinct)
        (List.getElem?_zip_eq_some.mpr ⟨named, there⟩) rest world
      rw [seconds] at found
      obtain ⟨after, ended, second⟩ := inductionHypothesis first.known
        (each.trans (length_offer event agents rest world).symm) found
        (rest.offer event agents world).1.2 (rest.offer event agents world).2
      have visits : pendingVisits watched names (budget + 1) agents reactor world =
          offerVisits watched event (names.zip agents) rest world ++
            pendingVisits watched names budget (rest.offer event agents world).1.1
              (rest.offer event agents world).1.2 (rest.offer event agents world).2 := by
        rw [pendingVisits, next]
      rw [runPending_of_next? next, taken?_pendingHistory next, visits]
      exact ⟨after, ended, first.trans second⟩

end Drains

/-! ### Visits in a run -/

/-- The visits to a machine with a move. -/
def Session.visits (watched : Nat) (names : List Nat)
    (session : Session Body World queueDepth traceDepth timerCount) :
    Move World → List (Visit Body queueDepth traceDepth timerCount)
  | .drain budget =>
    pendingVisits watched names budget session.agents session.reactor session.world
  | .launch place id =>
    if names[place]? = some watched then
      (session.agents[place]?.map (Visit.launch id · session.reactor session.world)).toList
    else []
  | .publish .. | .startTimer .. | .stopTimer _ | .tick | .meanwhile _ => []

/-- What a machine is to be visited for with a move: its launch, or the events that are taken in a
drain if it takes part. -/
def Session.summons (watched : Nat) (names : List Nat)
    (session : Session Body World queueDepth traceDepth timerCount) : Move World → List Summons
  | .drain budget =>
    if watched ∈ names then
      ((pendingHistory names budget session.agents session.reactor session.world).filterMap
        Happening.taken?).map .offered
    else []
  | .launch place id => if names[place]? = some watched then [.launched id] else []
  | .publish .. | .startTimer .. | .stopTimer _ | .tick | .meanwhile _ => []

namespace Ensemble

/-- The visits to a machine with a deed. -/
def visitsOf (watched : Nat) (ensemble : Ensemble Body World queueDepth traceDepth timerCount) :
    Deed World → List (Visit Body queueDepth traceDepth timerCount)
  | .act act => (ensemble.lineup act.members).visits watched act.members act.move
  | .dispatch name event =>
    if name = watched then
      [.offer event (ensemble.agents name) ensemble.reactor ensemble.world]
    else []
  | .take | .trace _ | .read | .clear | .editMask _ => []

/-- What a machine is to be visited for with a deed. -/
def summonsOf (watched : Nat) (ensemble : Ensemble Body World queueDepth traceDepth timerCount) :
    Deed World → List Summons
  | .act act => (ensemble.lineup act.members).summons watched act.members act.move
  | .dispatch name event => if name = watched then [.offered event] else []
  | .take | .trace _ | .read | .clear | .editMask _ => []

/-- The visits to a machine in a run, the earliest first. -/
def visits (watched : Nat) (ensemble : Ensemble Body World queueDepth traceDepth timerCount) :
    List (Deed World) → List (Visit Body queueDepth traceDepth timerCount)
  | [] => []
  | deed :: rest => ensemble.visitsOf watched deed ++ (ensemble.step deed).visits watched rest

/-- What a machine is to be visited for in a run. -/
def summons (watched : Nat) (ensemble : Ensemble Body World queueDepth traceDepth timerCount) :
    List (Deed World) → List Summons
  | [] => []
  | deed :: rest => ensemble.summonsOf watched deed ++ (ensemble.step deed).summons watched rest

section Rounds

variable {kind : Body → Prop} (steadfast : Steadfast kind) {watched : Nat}
  {ensemble : Ensemble (Watched Body) World queueDepth traceDepth timerCount}
  (known : kind (ensemble.agents watched).body.body)

include steadfast known

/-- A machine is visited for what it is to be visited for, and is left alone otherwise. -/
theorem visited_act (act : Act World) :
    Visited kind (ensemble.agents watched) (ensemble.summonsOf watched (.act act))
      (ensemble.visitsOf watched (.act act)) ((ensemble.act act).agents watched) := by
  have there {place : Nat} (named : act.members[place]? = some watched) :
      (ensemble.lineup act.members).agents[place]? = some (ensemble.agents watched) := by
    rw [lineup, List.getElem?_map, named]
    rfl
  have idle (absent : act.move.drains = true → watched ∉ act.members)
      (other : act.launched? ≠ some watched)
      (unvisited : (ensemble.lineup act.members).visits watched act.members act.move = [])
      (unsummoned : (ensemble.lineup act.members).summons watched act.members act.move = []) :
      Visited kind (ensemble.agents watched) (ensemble.summonsOf watched (.act act))
        (ensemble.visitsOf watched (.act act)) ((ensemble.act act).agents watched) := by
    rw [agents_act ensemble absent other, visitsOf, summonsOf, unvisited, unsummoned]
    exact .rest known
  obtain ⟨members, distinct, move⟩ := act
  cases move with
  | publish | startTimer | stopTimer | tick | meanwhile =>
    exact idle (by simp [Move.drains]) (by simp [Act.launched?]) rfl rfl
  | drain budget =>
    by_cases member : watched ∈ members
    · obtain ⟨place, named⟩ := List.mem_iff_getElem?.mp member
      obtain ⟨after, ended, visited⟩ := visited_pending steadfast known budget distinct
        (List.length_map _).symm named (there named) ensemble.reactor ensemble.world
      have last : (ensemble.act ⟨members, distinct, .drain budget⟩).agents watched = after :=
        regroup_of_getElem? distinct named ended
      rw [last, summonsOf, Session.summons, if_pos member]
      exact visited
    · refine idle (fun _ => member) (by simp [Act.launched?]) ?_ (if_neg member)
      exact pendingVisits_of_not_mem member _ _ _ _
  | launch place id =>
    by_cases named : members[place]? = some watched
    · obtain ⟨bracketed, kept⟩ := steadfast.launched id known ensemble.reactor ensemble.world
      have last : (ensemble.act ⟨members, distinct, .launch place id⟩).agents watched =
          (Visit.launch id (ensemble.agents watched) ensemble.reactor ensemble.world).after := by
        refine regroup_of_getElem? distinct named ?_
        simp only [Session.move, there named]
        exact List.getElem?_set_self (List.getElem?_eq_some_iff.mp (there named)).1
      rw [last, summonsOf, visitsOf, Session.summons, Session.visits, if_pos named, if_pos named,
        there named]
      exact .single bracketed kept
    · exact idle (by simp [Move.drains]) named (if_neg named) (if_neg named)

theorem visited_step (deed : Deed World) :
    Visited kind (ensemble.agents watched) (ensemble.summonsOf watched deed)
      (ensemble.visitsOf watched deed) ((ensemble.step deed).agents watched) := by
  cases deed with
  | act act => exact visited_act steadfast known act
  | take =>
    rw [step]
    cases ensemble.reactor.next? <;> exact .rest known
  | dispatch name event =>
    rw [visitsOf, summonsOf]
    by_cases same : name = watched
    · subst same
      obtain ⟨bracketed, kept⟩ := steadfast.offered event known ensemble.reactor ensemble.world
      have last : (ensemble.step (.dispatch name event)).agents name =
          (Visit.offer event (ensemble.agents name) ensemble.reactor ensemble.world).after :=
        Function.update_self ..
      rw [if_pos rfl, if_pos rfl, last]
      exact .single bracketed kept
    · have last : (ensemble.step (.dispatch name event)).agents watched =
          ensemble.agents watched := Function.update_of_ne (Ne.symm same) ..
      rw [if_neg same, if_neg same, last]
      exact .rest known
  | read =>
    rw [step]
    cases ensemble.reactor.trace.read? <;> exact .rest known
  | trace | clear | editMask => exact .rest known

theorem visited_live (deeds : List (Deed World)) :
    Visited kind (ensemble.agents watched) (ensemble.summons watched deeds)
      (ensemble.visits watched deeds) ((ensemble.live deeds).agents watched) := by
  induction deeds generalizing ensemble with
  | nil => exact .rest known
  | cons deed rest inductionHypothesis =>
    have first := visited_step steadfast known deed
    exact first.trans (inductionHypothesis first.known)

end Rounds

end Ensemble

/-! ### Well-bracketed transitions -/

omit [Machine Body] in
/-- What is written down stays written down. -/
theorem Rounds.prefix_log {agent last : Agent (Watched Body)}
    {visits : List (Visit (Watched Body) queueDepth traceDepth timerCount)}
    (rounds : Rounds agent visits last) : agent.body.log <+: last.body.log := by
  induction rounds with
  | rest => exact List.prefix_rfl
  | visit bracketed _ inductionHypothesis =>
    refine List.IsPrefix.trans ?_ inductionHypothesis
    cases bracketed with
    | heldBack _ _ agent => exact agent ▸ List.prefix_rfl
    | launched _ log | stayed _ _ log | moved _ _ log => exact log ▸ List.prefix_append _ _

omit [Machine Body] in
/-- A machine that is put into its first state is given the entry into it before anything else. -/
theorem Visited.first {kind : Body → Prop} {agent after : Agent (Watched Body)} {id : UInt8}
    {summons : List Summons}
    {visits : List (Visit (Watched Body) queueDepth traceDepth timerCount)}
    (visited : Visited kind agent (.launched id :: summons) visits after) :
    ∃ entering answer later,
      after.body.log = agent.body.log ++ ⟨0, .entry, entering, answer⟩ :: later := by
  obtain ⟨rounds, -, summoned⟩ := visited
  cases rounds with
  | rest => cases summoned
  | @visit visit _ _ bracketed rest =>
    have launched : visit.summons = .launched id := (List.cons.inj summoned).1
    cases bracketed with
    | @launched _ entering answer _ log =>
      obtain ⟨later, grown⟩ := rest.prefix_log
      rw [log, List.append_assoc] at grown
      exact ⟨entering, answer, later, grown.symm⟩
    | heldBack offered | stayed offered | moved offered => cases launched.symm.trans offered

/-- What it means that a machine sees well-bracketed transitions in a run. All machines are
watched. -/
structure WellBracketed (watched : Nat)
    (ensemble : Ensemble Body World queueDepth traceDepth timerCount) (deeds : List (Deed World)) :
    Prop where
  /-- Watching changes nothing. -/
  bare : (ensemble.watched.live deeds).bare = ensemble.live deeds
  /-- All that is given to the machine is given to it in visits that go as they should. -/
  rounds : Rounds (ensemble.agents watched).watched (ensemble.watched.visits watched deeds)
    ((ensemble.watched.live deeds).agents watched)
  /-- There is one visit for each launch of the machine and for each event that is offered to it
  alone or taken in a drain in which it takes part, in their order, and no other. -/
  summoned : (ensemble.watched.visits watched deeds).map Visit.summons =
    ensemble.watched.summons watched deeds
  /-- If the machine is put into its first state at once, it is first given the entry into it. -/
  first : ∀ act rest, deeds = .act act :: rest → act.launched? = some watched →
    ∃ entering answer later, ((ensemble.watched.live deeds).agents watched).body.log =
      ⟨0, .entry, entering, answer⟩ :: later

/-- However events are published, timers started and served, and events handed out to machines,
a machine that does not write its own context sees well-bracketed transitions. -/
theorem transitions_well_bracketed {kind : Body → Prop} (steadfast : Steadfast kind)
    (watched : Nat) (ensemble : Ensemble Body World queueDepth traceDepth timerCount)
    (known : kind (ensemble.agents watched).body) (deeds : List (Deed World)) :
    WellBracketed watched ensemble deeds := by
  have visited : Visited kind (ensemble.watched.agents watched) _ _ _ :=
    Ensemble.visited_live steadfast known deeds
  refine ⟨(Ensemble.bare_live ensemble.watched deeds).symm, visited.rounds, visited.summoned, ?_⟩
  rintro act rest rfl launches
  obtain ⟨members, distinct, move⟩ := act
  cases move with
  | launch place id =>
    have named : members[place]? = some watched := launches
    rw [Ensemble.summons, Ensemble.summonsOf, Session.summons, if_pos named] at visited
    exact visited.first
  | _ => cases launches

end Machines

/-- A supervisor leaves its context to its runner. -/
theorem steadfast_supervisor : Steadfast fun _ : Supervisor => True := by
  intro event agent _
  have still : agent.context = agent.context ∧ True := ⟨rfl, trivial⟩
  show (if agent.context.state = Supervisor.running then Supervisor.handleRunning event agent
    else if agent.context.state = Supervisor.lost then Supervisor.handleLost event agent
    else pure (.stay, agent)).Keeps _ _
  split
  · unfold Supervisor.handleRunning
    split
    · exact ⟨trivial, fun _ => still⟩
    · split
      · exact ⟨trivial, fun _ => ⟨trivial, fun _ => still⟩⟩
      · split <;> exact still
  · split
    · unfold Supervisor.handleLost
      split
      · exact ⟨trivial, fun _ => still⟩
      · split <;> exact still
    · exact still

/-- Two supervisors that hear of no master, until their time is over. -/
def silenceUntilLost : List (Deed (Sim.Bench Sim.Wire)) :=
  [.act { members := [0, 1], move := .launch 0 1 }, .act { members := [0, 1], move := .launch 1 2 },
    .act { members := [0, 1], move := .drain 8 }] ++
  List.replicate 40 (.act { members := [0, 1], move := .tick }) ++
  [.act { members := [0, 1], move := .drain 8 }]

/-- Two supervisors before they are put into their first states. -/
def guards :
    Ensemble Supervisor (Sim.Bench Sim.Wire) Node.queueDepth Node.traceDepth Node.timerCount where
  agents name := { body := { timer := UInt8.ofNat name } }
  reactor := .idle {}
  world := { line := {} }

/-- The second of them is given its own event but not that of the first, and moves at the timeout of
its own timer. -/
theorem guards_well_bracketed :
    Steadfast (fun _ : Supervisor => True) ∧ WellBracketed 1 guards silenceUntilLost ∧
      ((guards.watched.live silenceUntilLost).agents 1).body.log.map (fun given =>
          (given.state, given.event)) =
        [(0, .entry), (0, .toSelf 2), (0, .timeout 0 2), (0, .timeout 1 1), (0, .exit),
          (1, .entry)] :=
  ⟨steadfast_supervisor,
    transitions_well_bracketed steadfast_supervisor 1 guards trivial silenceUntilLost,
    by decide +kernel⟩

end BusNode.Reactor
