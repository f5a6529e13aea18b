/-
This file takes a history apart into steps. A service is performed, the timers are served, an event
is taken from the queue, or a machine is given the event that was taken. Whatever machines do on a
reactor and whatever the application asks of it is a row of such steps.

A machine is given an event only once after it was taken, and a timeout only while its cookie is
the one that its timer holds. So what every step keeps is kept by every run.
-/
import BusNode.Proofs.Reactor.History

namespace BusNode.Reactor

variable {depth queueDepth traceDepth : Depth} {count timerCount : Nat}

/-! ### Steps -/

/-- A core, with the event that was taken last and the machines that were given it. -/
structure Desk (depth : Depth) (count : Nat) where
  core : Core depth count
  offered : Option Event := none
  served : List Nat := []

/-- The desk after its timers have changed. -/
def Desk.retime (timers : TimerBank count) (desk : Desk depth count) : Desk depth count :=
  { desk with core := { desk.core with timers } }

/-- The desk after an event was taken from the queue. -/
def Desk.take (event : Event) (waiting : List Event) (desk : Desk depth count) : Desk depth count :=
  { core := { desk.core with waiting }, offered := some event }

/-- What can happen next, and what it leads to. -/
inductive Step : Desk depth count → List Happening → Desk depth count → Prop where
  | perform {desk : Desk depth count} (now : UInt32) (service : Service) :
      Step desk (desk.core.happenings service)
        { desk with core := (desk.core.perform now service).2 }
  | tick {desk : Desk depth count} :
      Step desk desk.core.tickHappenings { desk with core := desk.core.tick }
  | take {desk : Desk depth count} {event : Event} {waiting : List Event}
      (next : desk.core.waiting = event :: waiting) :
      Step desk [.taken event] (desk.take event waiting)
  | give {desk : Desk depth count} {event : Event} {machine : Nat}
      (offered : desk.offered = some event) (fresh : machine ∉ desk.served)
      (admitted : event.id = Event.timerId → desk.core.timers.isCurrent event = true) :
      Step desk [.given machine event] { desk with served := machine :: desk.served }

/-- What happens one step after another, and what it leads to. -/
inductive Course : Desk depth count → List Happening → Desk depth count → Prop where
  | rest {desk : Desk depth count} : Course desk [] desk
  | step {desk middle last : Desk depth count} {past happenings : List Happening}
      (course : Course desk past middle) (step : Step middle happenings last) :
      Course desk (past ++ happenings) last

namespace Course

variable {desk middle last : Desk depth count} {first second : List Happening}

theorem single (step : Step desk first last) : Course desk first last := .step .rest step

theorem trans (before : Course desk first middle) (after : Course middle second last) :
    Course desk (first ++ second) last := by
  induction after with
  | rest =>
    rw [List.append_nil]
    exact before
  | step _ step inductionHypothesis =>
    rw [← List.append_assoc]
    exact .step inductionHypothesis step

end Course

section Machines

variable {α : Type} {World : Type} [Clock World] [Journal World]

/-! ### Scripts -/

theorem Course.play (script : Script α) (desk : Desk queueDepth timerCount)
    (reactor : Reactor queueDepth traceDepth timerCount) (world : World)
    (same : desk.core = reactor.core) :
    Course desk (playHistory script reactor world)
      { desk with core := (reactor.play script world).1.2.core } := by
  induction script generalizing desk reactor world with
  | done result =>
    rw [show { desk with core := (reactor.play (.done result) world).1.2.core } = desk from
      congrArg (fun core => { desk with core }) same.symm]
    exact .rest
  | ask service next inductionHypothesis =>
    obtain ⟨now, acts⟩ := core_perform service reactor world
    have after : (desk.core.perform now service).2 =
        (reactor.perform service world).1.2.core := by
      rw [same]
      exact (congrArg Prod.snd acts).symm
    have performed : Course desk _ _ := .single (.perform now service)
    rw [after, same] at performed
    exact performed.trans (inductionHypothesis _ _ (reactor.perform service world).1.2
      (reactor.perform service world).2 rfl)

/-! ### Events -/

variable {Body : Type} [Machine Body]

/-- A machine is given a timeout only while it is current. -/
theorem admitted_of_plays {event : Event} {agent : Agent Body} {outcome : Bool × Agent Body}
    {core last : Core depth count} (plays : Core.Plays (agent.dispatch event) core outcome last)
    (given : outcome.1 = true) (timeout : event.id = Event.timerId) :
    core.timers.isCurrent event = true := by
  have current : core.admits event agent = core.timers.isCurrent event := if_pos timeout
  obtain ⟨answer, between, asked, rest⟩ := Core.plays_bind.mp plays
  obtain ⟨same, -⟩ := (Core.PlaysOnly.admits _ _).mp asked
  cases answer with
  | true => exact current.symm.trans same.symm
  | false =>
    obtain ⟨rfl, -⟩ := Core.plays_done.mp rest
    cases given

/-- What happens when an event is offered to one machine. -/
def dispatchHistory (name : Nat) (event : Event) (agent : Agent Body)
    (reactor : Reactor queueDepth traceDepth timerCount) (world : World) : List Happening :=
  (if (reactor.play (agent.dispatch event) world).1.1.1 then [.given name event] else []) ++
    playHistory (agent.dispatch event) reactor world

/-- A machine that is offered the event that was taken last is given it or not, and then it works.
-/
theorem Course.dispatch {event : Event} {desk : Desk queueDepth timerCount}
    (offered : desk.offered = some event) {name : Nat} (fresh : name ∉ desk.served)
    (agent : Agent Body) (reactor : Reactor queueDepth traceDepth timerCount) (world : World)
    (same : desk.core = reactor.core) :
    ∃ served, (∀ other, other ≠ name → other ∉ desk.served → other ∉ served) ∧
      Course desk (dispatchHistory name event agent reactor world)
        { desk with core := (reactor.play (agent.dispatch event) world).1.2.core, served } := by
  unfold dispatchHistory
  cases given : (reactor.play (agent.dispatch event) world).1.1.1 with
  | false =>
    exact ⟨desk.served, fun other _ absent => absent,
      Course.play (agent.dispatch event) desk reactor world same⟩
  | true =>
    refine ⟨name :: desk.served, fun other different absent among => ?_, ?_⟩
    · exact (List.mem_cons.mp among).elim different absent
    · have current : event.id = Event.timerId → desk.core.timers.isCurrent event = true := by
        rw [same]
        exact admitted_of_plays (play_plays (agent.dispatch event) reactor world) given
      exact (Course.single (.give offered fresh current)).trans
        (Course.play (agent.dispatch event) { desk with served := name :: desk.served } reactor
          world same)

/-- Only machines that an event is offered to are given it. -/
theorem Course.offer {event : Event} (machines : List (Nat × Agent Body))
    (distinct : (machines.map Prod.fst).Nodup) (desk : Desk queueDepth timerCount)
    (offered : desk.offered = some event) (fresh : ∀ machine ∈ machines, machine.1 ∉ desk.served)
    (reactor : Reactor queueDepth traceDepth timerCount) (world : World)
    (same : desk.core = reactor.core) :
    ∃ served, (∀ other, other ∉ machines.map Prod.fst → other ∉ desk.served → other ∉ served) ∧
      Course desk (offerHistory event machines reactor world)
        { desk with
          core := (reactor.offer event (machines.map Prod.snd) world).1.2.core
          served } := by
  induction machines generalizing desk reactor world with
  | nil =>
    refine ⟨desk.served, fun other _ absent => absent, ?_⟩
    rw [show (reactor.offer event (([] : List (Nat × Agent Body)).map Prod.snd) world).1.2.core =
      desk.core from same.symm]
    exact .rest
  | cons machine rest inductionHypothesis =>
    obtain ⟨name, agent⟩ := machine
    obtain ⟨apart, distinct⟩ := List.nodup_cons.mp distinct
    obtain ⟨first, others⟩ := List.forall_mem_cons.mp fresh
    obtain ⟨served, kept, worked⟩ := Course.dispatch offered first agent reactor world same
    have later : ∀ machine ∈ rest, machine.1 ∉ served := by
      intro machine member
      refine kept _ (fun equal => apart ?_) (others machine member)
      exact List.mem_map.mpr ⟨machine, member, equal⟩
    obtain ⟨served, onward, offers⟩ := inductionHypothesis distinct
      { desk with core := (reactor.play (agent.dispatch event) world).1.2.core, served } offered
      later (reactor.play (agent.dispatch event) world).1.2
      (reactor.play (agent.dispatch event) world).2 rfl
    refine ⟨served, fun other outside absent => ?_, worked.trans offers⟩
    obtain ⟨different, elsewhere⟩ := not_or.mp (mt List.mem_cons.mpr outside)
    exact onward other elsewhere (kept other different absent)

theorem Course.pending (names : List Nat) (distinct : names.Nodup) (budget : Nat)
    (agents : List (Agent Body)) (each : names.length = agents.length)
    (desk : Desk queueDepth timerCount) (reactor : Reactor queueDepth traceDepth timerCount)
    (world : World) (same : desk.core = reactor.core) :
    ∃ last, Course desk (pendingHistory names budget agents reactor world) last ∧
      last.core = (reactor.runPending budget agents world).1.2.2.core := by
  induction budget generalizing agents desk reactor world with
  | zero => exact ⟨desk, .rest, same⟩
  | succ budget inductionHypothesis =>
    rw [pendingHistory, runPending]
    cases next : reactor.next? with
    | none => exact ⟨desk, .rest, same⟩
    | some pair =>
      obtain ⟨event, rest⟩ := pair
      obtain ⟨waits, left⟩ := core_of_next? next
      have taken : Course desk [.taken event] { core := rest.core, offered := some event } := by
        rw [left, ← same]
        exact .single (.take (same ▸ waits))
      have zipped : (names.zip agents).map Prod.fst = names := List.map_fst_zip (Nat.le_of_eq each)
      have members : (names.zip agents).map Prod.snd = agents :=
        List.map_snd_zip (Nat.le_of_eq each.symm)
      have apart : ((names.zip agents).map Prod.fst).Nodup := zipped.symm ▸ distinct
      obtain ⟨served, -, offered⟩ := Course.offer (names.zip agents) apart
        { core := rest.core, offered := some event } rfl (fun _ _ => List.not_mem_nil) rest world rfl
      rw [members] at offered
      obtain ⟨last, onward, ended⟩ := inductionHypothesis (rest.offer event agents world).1.1
        (each.trans (length_offer event agents rest world).symm)
        { core := (rest.offer event agents world).1.2.core, offered := some event, served }
        (rest.offer event agents world).1.2 (rest.offer event agents world).2 rfl
      exact ⟨last, (taken.trans offered).trans onward, ended⟩

/-! ### Runs -/

/-- What happens with a move is a course, if the machines have names of their own. -/
theorem Course.move {names : List Nat} (distinct : names.Nodup)
    (session : Session Body World queueDepth traceDepth timerCount)
    (each : names.length = session.agents.length) {desk : Desk queueDepth timerCount}
    (same : desk.core = session.core) (move : Move World) :
    ∃ last, Course desk (session.happenings names move) last ∧
      last.core = (session.move move).core := by
  cases move with
  | publish place event =>
    have performed : Course desk _ _ := .single (.perform 0 (.publish place event))
    rw [same] at performed
    exact ⟨_, performed, (session.core_publish place event).symm⟩
  | startTimer index ticks =>
    have performed : Course desk _ _ := .single (.perform 0 (.startTimer index ticks))
    rw [same] at performed
    exact ⟨_, performed, (session.core_startTimer index ticks).symm⟩
  | stopTimer index =>
    have performed : Course desk _ _ := .single (.perform 0 (.stopTimer index))
    rw [same] at performed
    exact ⟨_, performed, (session.core_stopTimer index).symm⟩
  | tick =>
    have ticked : Course desk _ _ := .single .tick
    rw [same] at ticked
    exact ⟨_, ticked, session.core_tick.symm⟩
  | drain budget =>
    exact Course.pending names distinct budget session.agents each desk session.reactor
      session.world same
  | launch place id =>
    rw [Session.happenings, Session.move]
    cases session.agents[place]? with
    | none => exact ⟨desk, .rest, same⟩
    | some agent =>
      exact ⟨_, Course.play (agent.start id) desk session.reactor session.world same, rfl⟩
  | meanwhile change => exact ⟨desk, .rest, same⟩

end Machines

end BusNode.Reactor
