/-
This file watches one machine among others. It writes down when the machine is put into its first
state, each event that it is offered with the state before and after, and the ticks in between. Like
a history, a chronicle is read off the operations as they are carried out.
-/
import BusNode.Proofs.Reactor.Ensemble

namespace BusNode.Reactor

variable {queueDepth traceDepth : Depth} {timerCount : Nat}

/-- One thing that happens to a machine, or the tick that everybody gets. -/
inductive Incident where
  | ticked
  /-- The machine is put into its first state. -/
  | launched
  /-- The machine is offered an event, and goes from one state to another or stays in it. -/
  | offered (event : Event) (before after : UInt8)
  deriving DecidableEq

theorem not_mem_named {α : Type} {watched : Nat} {names : List Nat} (absent : watched ∉ names)
    (agents : List α) : watched ∉ (names.zip agents).map Prod.fst := by
  intro among
  obtain ⟨machine, member, rfl⟩ := List.mem_map.mp among
  exact absent (List.of_mem_zip member).1

section Machines

variable {Body World : Type} [Machine Body] [Clock World] [Journal World]

/-! ### Events -/

/-- What happens to a machine when an event is offered to machines. -/
def offerIncidents (watched : Nat) (event : Event) :
    List (Nat × Agent Body) → Reactor queueDepth traceDepth timerCount → World → List Incident
  | [], _, _ => []
  | (name, agent) :: rest, reactor, world =>
    let played := reactor.play (agent.dispatch event) world
    (if name = watched then [.offered event agent.context.state played.1.1.2.context.state]
      else []) ++ offerIncidents watched event rest played.1.2 played.2

/-- What happens to a machine when events are handed out. -/
def pendingIncidents (watched : Nat) (names : List Nat) :
    Nat → List (Agent Body) → Reactor queueDepth traceDepth timerCount → World → List Incident
  | 0, _, _, _ => []
  | budget + 1, agents, reactor, world =>
    match reactor.next? with
    | none => []
    | some (event, reactor) =>
      let offered := reactor.offer event agents world
      offerIncidents watched event (names.zip agents) reactor world ++
        pendingIncidents watched names budget offered.1.1 offered.1.2 offered.2

theorem offer_append (event : Event) (first second : List (Agent Body))
    (reactor : Reactor queueDepth traceDepth timerCount) (world : World) :
    reactor.offer event (first ++ second) world =
      let early := reactor.offer event first world
      let late := early.1.2.offer event second early.2
      ((early.1.1 ++ late.1.1, late.1.2), late.2) := by
  induction first generalizing reactor world with
  | nil => rfl
  | cons agent rest inductionHypothesis =>
    let played := reactor.play (agent.dispatch event) world
    exact congrArg (Prod.map (Prod.map (played.1.1.2 :: ·) id) id)
      (inductionHypothesis played.1.2 played.2)

theorem offerHistory_append (event : Event) (first second : List (Nat × Agent Body))
    (reactor : Reactor queueDepth traceDepth timerCount) (world : World) :
    offerHistory event (first ++ second) reactor world =
      let early := reactor.offer event (first.map Prod.snd) world
      offerHistory event first reactor world ++ offerHistory event second early.1.2 early.2 := by
  induction first generalizing reactor world with
  | nil => rfl
  | cons machine rest inductionHypothesis =>
    obtain ⟨name, agent⟩ := machine
    let played := reactor.play (agent.dispatch event) world
    exact (congrArg ((if played.1.1.1 then [.given name event] else []) ++
      playHistory (agent.dispatch event) reactor world ++ ·)
        (inductionHypothesis played.1.2 played.2)).trans (List.append_assoc _ _ _).symm

theorem offerIncidents_append (watched : Nat) (event : Event) (first second : List (Nat × Agent Body))
    (reactor : Reactor queueDepth traceDepth timerCount) (world : World) :
    offerIncidents watched event (first ++ second) reactor world =
      let early := reactor.offer event (first.map Prod.snd) world
      offerIncidents watched event first reactor world ++
        offerIncidents watched event second early.1.2 early.2 := by
  induction first generalizing reactor world with
  | nil => rfl
  | cons machine rest inductionHypothesis =>
    obtain ⟨name, agent⟩ := machine
    rw [List.cons_append, offerIncidents, inductionHypothesis]
    exact (List.append_assoc _ _ _).symm

/-- What others are offered does not happen to the machine. -/
theorem offerIncidents_of_not_mem {watched : Nat} {event : Event} {machines : List (Nat × Agent Body)}
    (absent : watched ∉ machines.map Prod.fst) (reactor : Reactor queueDepth traceDepth timerCount)
    (world : World) : offerIncidents watched event machines reactor world = [] := by
  induction machines generalizing reactor world with
  | nil => rfl
  | cons machine rest inductionHypothesis =>
    obtain ⟨name, agent⟩ := machine
    obtain ⟨different, elsewhere⟩ := not_or.mp (mt List.mem_cons.mpr absent)
    rw [offerIncidents, if_neg (Ne.symm different)]
    exact inductionHypothesis elsewhere _ _

/-- A machine that is among others is offered an event once. -/
theorem offerIncidents_of_split {watched : Nat} (event : Event) {first second : List (Nat × Agent Body)}
    (before : watched ∉ first.map Prod.fst) (after : watched ∉ second.map Prod.fst)
    (agent : Agent Body) (reactor : Reactor queueDepth traceDepth timerCount) (world : World) :
    offerIncidents watched event (first ++ (watched, agent) :: second) reactor world =
      let early := reactor.offer event (first.map Prod.snd) world
      let played := early.1.2.play (agent.dispatch event) early.2
      [.offered event agent.context.state played.1.1.2.context.state] := by
  rw [offerIncidents_append, offerIncidents_of_not_mem before, List.nil_append, offerIncidents,
    if_pos rfl, offerIncidents_of_not_mem after, List.append_nil]

section Row

variable {before after : List Nat} {watched : Nat} {first second : List (Agent Body)}

/-- What happens in a row of machines is what happens before one of them, with it and behind it. -/
theorem offerHistory_of_row (early : before.length = first.length) (agent : Agent Body)
    (event : Event) (reactor : Reactor queueDepth traceDepth timerCount) (world : World) :
    offerHistory event ((before ++ watched :: after).zip (first ++ agent :: second)) reactor world =
      let middle := reactor.offer event first world
      let played := middle.1.2.play (agent.dispatch event) middle.2
      offerHistory event (before.zip first) reactor world ++
        (dispatchHistory watched event agent middle.1.2 middle.2 ++
          offerHistory event (after.zip second) played.1.2 played.2) := by
  rw [List.zip_append early, offerHistory_append, List.map_snd_zip (Nat.le_of_eq early.symm)]
  rfl

/-- A machine in a row of machines with other names is offered an event once. -/
theorem offerIncidents_of_row (distinct : (before ++ watched :: after).Nodup)
    (early : before.length = first.length) (agent : Agent Body) (event : Event)
    (reactor : Reactor queueDepth traceDepth timerCount) (world : World) :
    offerIncidents watched event ((before ++ watched :: after).zip (first ++ agent :: second)) reactor
        world =
      let middle := reactor.offer event first world
      let played := middle.1.2.play (agent.dispatch event) middle.2
      [.offered event agent.context.state played.1.1.2.context.state] := by
  obtain ⟨-, rest, separate⟩ := List.nodup_append.mp distinct
  have elsewhere : watched ∉ before := fun member =>
    separate watched member watched List.mem_cons_self rfl
  rw [List.zip_append early, List.zip_cons_cons,
    offerIncidents_of_split event (not_mem_named elsewhere first)
      (not_mem_named (List.nodup_cons.mp rest).1 second),
    List.map_snd_zip (Nat.le_of_eq early.symm)]

end Row

theorem pendingIncidents_of_not_mem {watched : Nat} {names : List Nat} (absent : watched ∉ names)
    (budget : Nat) (agents : List (Agent Body))
    (reactor : Reactor queueDepth traceDepth timerCount) (world : World) :
    pendingIncidents watched names budget agents reactor world = [] := by
  induction budget generalizing agents reactor world with
  | zero => rfl
  | succ budget inductionHypothesis =>
    rw [pendingIncidents]
    cases reactor.next? with
    | none => rfl
    | some pair =>
      exact List.append_eq_nil_iff.mpr
        ⟨offerIncidents_of_not_mem (not_mem_named absent agents) pair.2 world,
          inductionHypothesis _ _ _⟩

/-! ### Runs -/

/-- Whether events are handed out. -/
def Move.drains : Move World → Bool
  | .drain _ => true
  | _ => false

/-- Whether the application starts or stops a timer. -/
def Move.touches (timer : UInt8) : Move World → Bool
  | .startTimer index _ | .stopTimer index => index = timer
  | _ => false

/-- The machine that is put into its first state, if one is. -/
def Act.launched? (act : Act World) : Option Nat :=
  match act.move with
  | .launch place _ => act.members[place]?
  | _ => none

/-- What happens to a machine with a move. -/
def Session.incidents (watched : Nat) (names : List Nat)
    (session : Session Body World queueDepth traceDepth timerCount) : Move World → List Incident
  | .tick => [.ticked]
  | .drain budget =>
    pendingIncidents watched names budget session.agents session.reactor session.world
  | .launch place _ => if names[place]? = some watched then [.launched] else []
  | .publish .. | .startTimer .. | .stopTimer _ | .meanwhile _ => []

/-- What happens to a machine in a run. -/
def Ensemble.chronicle (watched : Nat)
    (ensemble : Ensemble Body World queueDepth traceDepth timerCount) :
    List (Act World) → List Incident
  | [] => []
  | act :: rest =>
    (ensemble.lineup act.members).incidents watched act.members act.move ++
      (ensemble.act act).chronicle watched rest

/-- Nothing happens to a machine that neither takes part in a drain nor is put into its first state,
unless it is a tick. -/
theorem incidents_of_idle {watched : Nat}
    (session : Session Body World queueDepth traceDepth timerCount) {act : Act World}
    (ticks : act.move ≠ .tick) (absent : act.move.drains = true → watched ∉ act.members)
    (other : act.launched? ≠ some watched) :
    session.incidents watched act.members act.move = [] := by
  rw [Act.launched?] at other
  cases same : act.move with
  | tick => exact absurd same ticks
  | publish | startTimer | stopTimer | meanwhile => rfl
  | drain budget =>
    rw [same] at absent
    exact pendingIncidents_of_not_mem (absent rfl) budget session.agents session.reactor
      session.world
  | launch place id =>
    rw [same] at other
    exact if_neg other

/-- A machine that takes no part in an act gets at most a tick. -/
theorem incidents_of_not_mem {watched : Nat}
    (session : Session Body World queueDepth traceDepth timerCount) {act : Act World}
    (absent : watched ∉ act.members) :
    ∀ incident ∈ session.incidents watched act.members act.move, incident = .ticked := by
  by_cases ticks : act.move = .tick
  · rw [ticks]
    exact List.forall_mem_singleton.mpr rfl
  · have other : act.launched? ≠ some watched := by
      rw [Act.launched?]
      split
      · exact fun named => absent (List.mem_of_getElem? named)
      · exact nofun
    rw [incidents_of_idle session ticks (fun _ => absent) other]
    exact List.forall_mem_nil _

namespace Ensemble

theorem chronicle_append (watched : Nat)
    (ensemble : Ensemble Body World queueDepth traceDepth timerCount)
    (before after : List (Act World)) :
    ensemble.chronicle watched (before ++ after) =
      ensemble.chronicle watched before ++ (ensemble.run before).chronicle watched after := by
  induction before generalizing ensemble with
  | nil => rfl
  | cons act rest inductionHypothesis =>
    rw [List.cons_append, chronicle, chronicle, inductionHypothesis, List.append_assoc]
    rfl

/-- Events are handed out until none waits. -/
def Empties (ensemble : Ensemble Body World queueDepth traceDepth timerCount) (act : Act World) :
    Prop :=
  act.move.drains = true → (ensemble.act act).reactor.queue.toList = []

instance (ensemble : Ensemble Body World queueDepth traceDepth timerCount) (act : Act World) :
    Decidable (ensemble.Empties act) :=
  inferInstanceAs (Decidable (_ → _))

/-- A machine that neither takes part in a drain nor is put into its first state stays as it is. -/
theorem agents_act {watched : Nat}
    (ensemble : Ensemble Body World queueDepth traceDepth timerCount) {act : Act World}
    (absent : act.move.drains = true → watched ∉ act.members)
    (other : act.launched? ≠ some watched) :
    (ensemble.act act).agents watched = ensemble.agents watched := by
  by_cases member : watched ∈ act.members
  · obtain ⟨place, named⟩ := List.mem_iff_getElem?.mp member
    refine regroup_of_getElem? act.distinct named ?_
    have there : (ensemble.lineup act.members).agents[place]? = some (ensemble.agents watched) := by
      rw [lineup, List.getElem?_map, named]
      rfl
    rw [Act.launched?] at other
    cases same : act.move with
    | publish | startTimer | stopTimer | tick | meanwhile => exact there
    | drain budget =>
      rw [same] at absent
      exact absurd member (absent rfl)
    | launch another id =>
      rw [same] at other
      rw [Session.move]
      cases (ensemble.lineup act.members).agents[another]? with
      | none => exact there
      | some agent =>
        have apart : another ≠ place := by
          rintro rfl
          exact other named
        exact (List.getElem?_set_ne apart).trans there
  · exact regroup_of_not_mem member

end Ensemble

end Machines

end BusNode.Reactor
