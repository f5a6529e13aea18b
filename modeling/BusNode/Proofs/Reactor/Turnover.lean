/-
This file counts the events that pass through a queue. Whatever machines do, the events of one kind
that wait grow by those that join, and an event leaves the queue only when it is handed out. So a
drain that ends with an empty queue has taken what waited at first and what has joined since.

A drain that has emptied the queue is over. It takes the same events however many more its caller
was ready for.
-/
import BusNode.Proofs.Reactor.History

namespace BusNode.Reactor

variable {depth queueDepth traceDepth : Depth} {count timerCount : Nat} (wanted : Event → Bool)

namespace Happening

/-- Whether an event of some kind joins the queue. A null event never does. -/
def joins (wanted : Event → Bool) : Happening → Bool
  | published _ event queued => queued && !event.isNil && wanted event
  | rang event queued => queued && !event.isNil && wanted event
  | _ => false

/-- An event that joins the queue is of a kind or is not. -/
theorem countP_joins (kind : Event → Bool) (history : List Happening) :
    history.countP (joins fun _ => true) =
      history.countP (joins kind) + history.countP (joins fun event => !kind event) := by
  have apart : ∀ happening : Happening, (if joins (fun _ => true) happening = true then 1 else 0) =
      (if joins kind happening = true then 1 else 0) +
        if joins (fun event => !kind event) happening = true then 1 else 0 := by
    intro happening
    cases happening with
    | published place event queued | rang event queued =>
      cases same : kind event <;> simp [joins, same]
    | started | stopped | ticked | taken | given => rfl
  induction history with
  | nil => rfl
  | cons happening rest inductionHypothesis =>
    simp only [List.countP_cons, inductionHypothesis, apart happening]
    omega

end Happening

/-! ### Services -/

namespace Core

theorem countP_publish (place : QueueEnd) (event : Event) (core : Core depth count) :
    (core.publish place event).2.waiting.countP wanted =
      core.waiting.countP wanted +
        if ((core.publish place event).1 && !event.isNil && wanted event) = true then 1 else 0 := by
  cases null : event.isNil with
  | true => simp [publish, null]
  | false =>
    by_cases room : core.waiting.length < depth.size
    · rw [publish_of_room null place room]
      cases place with
      | back => simp [join, List.countP_singleton]
      | front => simp [join, List.countP_cons]
    · rw [publish_of_full null place (Nat.not_lt.mp room)]
      simp

theorem countP_emitAll (emissions : List Emission) (core : Core depth count) :
    (emitAll emissions core).waiting.countP wanted =
      core.waiting.countP wanted + (core.rings emissions).countP (Happening.joins wanted) := by
  induction emissions generalizing core with
  | nil => rfl
  | cons emission rest inductionHypothesis =>
    have step : emitAll (emission :: rest) core = emitAll rest (core.emit emission) := rfl
    rw [step, inductionHypothesis]
    cases emission with
    | trace _ | note _ => rfl
    | publish event =>
      rw [emit, countP_publish, rings, List.countP_cons, Nat.add_assoc]
      exact congrArg (core.waiting.countP wanted + ·) (Nat.add_comm _ _)

/-- A service makes the events of one kind grow by those that join. -/
theorem countP_perform (now : UInt32) (service : Service) (core : Core depth count) :
    (core.perform now service).2.waiting.countP wanted =
      core.waiting.countP wanted +
        (core.happenings service).countP (Happening.joins wanted) := by
  cases service with
  | publish place event =>
    rw [happenings, List.countP_singleton]
    exact countP_publish wanted place event core
  | startTimer index ticks =>
    show (core.startTimer index ticks).2.waiting.countP wanted = _
    rw [startTimer, happenings]
    cases core.timers.start? index ticks with
    | none => rfl
    | some started => exact countP_emitAll wanted _ _
  | stopTimer index => exact countP_emitAll wanted _ _
  | trace _ | ticksLeft _ | isCurrent _ | ticksIn _ | now | note _ => rfl

end Core

/-! ### Machines -/

section Machines

variable {α : Type} {World : Type} [Clock World] [Journal World]

theorem countP_play (script : Script α) (reactor : Reactor queueDepth traceDepth timerCount)
    (world : World) :
    (reactor.play script world).1.2.core.waiting.countP wanted =
      reactor.core.waiting.countP wanted +
        (playHistory script reactor world).countP (Happening.joins wanted) := by
  induction script generalizing reactor world with
  | done result => rfl
  | ask service next inductionHypothesis =>
    obtain ⟨now, acts⟩ := core_perform service reactor world
    have after : (reactor.perform service world).1.2.core = (reactor.core.perform now service).2 :=
      congrArg Prod.snd acts
    have later := inductionHypothesis (reactor.perform service world).1.1
      (reactor.perform service world).1.2 (reactor.perform service world).2
    rw [after, Core.countP_perform] at later
    rw [playHistory, List.countP_append, ← Nat.add_assoc]
    exact later

variable {Body : Type} [Machine Body]

theorem countP_offer (event : Event) (machines : List (Nat × Agent Body))
    (reactor : Reactor queueDepth traceDepth timerCount) (world : World) :
    (reactor.offer event (machines.map Prod.snd) world).1.2.core.waiting.countP wanted =
      reactor.core.waiting.countP wanted +
        (offerHistory event machines reactor world).countP (Happening.joins wanted) := by
  induction machines generalizing reactor world with
  | nil => rfl
  | cons machine rest inductionHypothesis =>
    obtain ⟨name, agent⟩ := machine
    have played := countP_play wanted (agent.dispatch event) reactor world
    have later := inductionHypothesis (reactor.play (agent.dispatch event) world).1.2
      (reactor.play (agent.dispatch event) world).2
    have mark : (if (reactor.play (agent.dispatch event) world).1.1.1 then
        [Happening.given name event] else []).countP (Happening.joins wanted) = 0 := by
      split <;> rfl
    have parts : offerHistory event ((name, agent) :: rest) reactor world = _ ++ _ ++ _ := rfl
    rw [parts, List.countP_append, List.countP_append, mark, Nat.zero_add, ← Nat.add_assoc,
      ← played]
    exact later

section Next

variable {event : Event} {reactor rest : Reactor queueDepth traceDepth timerCount}
  (next : reactor.next? = some (event, rest)) (budget : Nat) (agents : List (Agent Body))
  (world : World)

include next

theorem runPending_of_next? :
    reactor.runPending (budget + 1) agents world =
      let offered := rest.offer event agents world
      Prod.map (Prod.map (· + 1) id) id
        (offered.1.2.runPending budget offered.1.1 offered.2) := by
  rw [runPending, next]
  rfl

theorem pendingHistory_of_next? (names : List Nat) :
    pendingHistory names (budget + 1) agents reactor world =
      let offered := rest.offer event agents world
      .taken event :: offerHistory event (names.zip agents) rest world ++
        pendingHistory names budget offered.1.1 offered.1.2 offered.2 := by
  rw [pendingHistory, next]
  rfl

end Next

/-- What waited before a drain and what joined the queue with it was taken or still waits. -/
theorem length_runPending {names : List Nat} (budget : Nat) {agents : List (Agent Body)}
    (each : names.length = agents.length)
    (reactor : Reactor queueDepth traceDepth timerCount) (world : World) :
    reactor.core.waiting.length +
        (pendingHistory names budget agents reactor world).countP (Happening.joins fun _ => true) =
      (reactor.runPending budget agents world).1.1 +
        (reactor.runPending budget agents world).1.2.2.core.waiting.length := by
  induction budget generalizing agents reactor world with
  | zero => exact (Nat.zero_add _).symm
  | succ budget inductionHypothesis =>
    cases next : reactor.next? with
    | none =>
      rw [pendingHistory, next, runPending_of_nil _ _ ((next?_eq_none_iff reactor).mp next)]
      exact (Nat.zero_add _).symm
    | some pair =>
      obtain ⟨event, rest⟩ := pair
      have members : (names.zip agents).map Prod.snd = agents :=
        List.map_snd_zip (Nat.le_of_eq each.symm)
      have offered := countP_offer (fun _ => true) event (names.zip agents) rest world
      rw [members, List.countP_true] at offered
      have later := inductionHypothesis
        (each.trans (length_offer event agents rest world).symm)
        (rest.offer event agents world).1.2 (rest.offer event agents world).2
      have waits : reactor.core.waiting.length = rest.core.waiting.length + 1 :=
        congrArg List.length (core_of_next? next).1
      rw [runPending_of_next? next, pendingHistory_of_next? next, List.countP_append,
        List.countP_cons_of_neg (by simp [Happening.joins]), waits]
      simp only [Prod.map_fst, Prod.map_snd, id]
      omega

/-- No more events are taken than the caller was ready for. -/
theorem runPending_le (budget : Nat) (agents : List (Agent Body))
    (reactor : Reactor queueDepth traceDepth timerCount) (world : World) :
    (reactor.runPending budget agents world).1.1 ≤ budget := by
  induction budget generalizing agents reactor world with
  | zero => exact Nat.le_refl 0
  | succ budget inductionHypothesis =>
    cases next : reactor.core.waiting with
    | nil =>
      rw [runPending_of_nil _ _ next]
      exact Nat.zero_le _
    | cons event waiting =>
      obtain ⟨later, after, onward, -, same⟩ := runPending_of_cons agents next world
      rw [same]
      exact Nat.succ_le_succ (inductionHypothesis later after onward)

/-- A drain that has emptied the queue is over. -/
theorem runPending_of_emptied {budget : Nat} {agents : List (Agent Body)}
    {reactor : Reactor queueDepth traceDepth timerCount} {world : World}
    (emptied : (reactor.runPending budget agents world).1.2.2.core.waiting = []) (more : Nat) :
    reactor.runPending (budget + more) agents world = reactor.runPending budget agents world := by
  induction budget generalizing agents reactor world with
  | zero => exact runPending_of_nil _ _ emptied world
  | succ budget inductionHypothesis =>
    cases next : reactor.core.waiting with
    | nil => rw [runPending_of_nil _ _ next, runPending_of_nil _ _ next]
    | cons event waiting =>
      obtain ⟨later, after, onward, -, same⟩ := runPending_of_cons agents next world
      rw [same] at emptied
      rw [Nat.add_right_comm, same, same, inductionHypothesis emptied]

end Machines

end BusNode.Reactor
