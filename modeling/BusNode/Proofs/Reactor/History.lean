/-
This file writes down what happens on a reactor, one thing after another: what is published and
whether it found room, which timers are started, stopped and run out, which events are taken from
the queue, and which machine is given them. The application and the machines leave the same marks.

A history only watches. It is read off the operations as they are carried out, and nothing depends
on it. A machine is named by a number, so that it can be told from others over several drains.
-/
import BusNode.Proofs.Reactor.Session

namespace BusNode.Reactor

variable {depth queueDepth traceDepth : Depth} {count timerCount : Nat}

/-- One thing that happens on a reactor. -/
inductive Happening where
  /-- The application or a machine publishes an event, which is queued or refused. -/
  | published (place : QueueEnd) (event : Event) (queued : Bool)
  /-- A timer is started, and draws a cookie. -/
  | started (index : UInt8) (ticks cookie : UInt16)
  | stopped (index : UInt8)
  /-- The timers are served. -/
  | ticked
  /-- A timer has run out, and its timeout is queued or refused. -/
  | rang (timeout : Event) (queued : Bool)
  /-- The next event is taken from the queue. -/
  | taken (event : Event)
  /-- A machine is given the event that was taken. -/
  | given (machine : Nat) (event : Event)
  deriving DecidableEq

namespace Happening

/-- Whether an event found no room. -/
def refused : Happening → Bool
  | published _ _ queued | rang _ queued => !queued
  | _ => false

theorem queued_of_granted {place : QueueEnd} {event : Event} {queued : Bool}
    (granted : (published place event queued).refused = false) : queued = true := by
  simpa [refused] using granted

/-- Whether somebody other than a timer publishes a timeout. -/
def forged : Happening → Bool
  | published _ event _ => event.id = Event.timerId
  | _ => false

end Happening

/-! ### Services -/

namespace Core

/-- What happens when the timers say something. -/
def rings : List Emission → Core depth count → List Happening
  | [], _ => []
  | .publish event :: rest, core =>
    .rang event (core.publish .back event).1 :: rings rest (core.publish .back event).2
  | .trace _ :: rest, core => rings rest core
  | .note _ :: rest, core => rings rest core

theorem rings_of_silent {emissions : List Emission} {core : Core depth count}
    (silent : ∀ event, .publish event ∉ emissions) : rings emissions core = [] := by
  induction emissions with
  | nil => rfl
  | cons emission rest inductionHypothesis =>
    have later := inductionHypothesis fun event member => silent event (List.mem_cons_of_mem _ member)
    cases emission with
    | publish event => exact absurd List.mem_cons_self (silent event)
    | trace _ | note _ => exact later

/-- What happens when a service is performed. -/
def happenings (service : Service) (core : Core depth count) : List Happening :=
  match service with
  | .publish place event => [.published place event (core.publish place event).1]
  | .startTimer index ticks =>
    match core.timers.start? index ticks with
    | none => []
    | some (cookie, emissions, timers) =>
      .started index ticks cookie ::
        rings emissions ({ core with timers } : Core depth count)
  | .stopTimer index =>
    .stopped index ::
      rings (core.timers.stop index).1
        ({ core with timers := (core.timers.stop index).2 } : Core depth count)
  | .trace _ | .ticksLeft _ | .isCurrent _ | .ticksIn _ | .now | .note _ => []

/-- What happens when the timers are served. -/
def tickHappenings (core : Core depth count) : List Happening :=
  .ticked ::
    rings core.timers.tick.1 ({ core with timers := core.timers.tick.2 } : Core depth count)

/-- Timeouts of which none is refused all join the queue. -/
theorem waiting_of_granted {events : List Event} (real : ∀ event ∈ events, event.isNil = false)
    {core : Core depth count}
    (granted : ∀ happening ∈ rings (events.map .publish) core, happening.refused = false) :
    (emitAll (events.map .publish) core).waiting = core.waiting ++ events := by
  induction events generalizing core with
  | nil => exact (List.append_nil core.waiting).symm
  | cons event rest inductionHypothesis =>
    obtain ⟨real, others⟩ := List.forall_mem_cons.mp real
    obtain ⟨queued, later⟩ := List.forall_mem_cons.mp granted
    have step : emitAll ((event :: rest).map .publish) core =
        emitAll (rest.map .publish) (core.publish .back event).2 := rfl
    rw [step, inductionHypothesis others later]
    by_cases room : core.waiting.length < depth.size
    · rw [publish_of_room real .back room]
      exact List.append_assoc core.waiting [event] rest
    · rw [publish_of_full real .back (Nat.not_lt.mp room)] at queued
      cases queued

/-- With a tick that refuses no timeout, all of them join the queue. -/
theorem tick_of_granted {core : Core depth count}
    (granted : ∀ happening ∈ core.tickHappenings, happening.refused = false) :
    core.tick.waiting = core.waiting ++ core.timers.expiring :=
  waiting_of_granted (fun _ said => TimerBank.isNil_of_mem_expiring said)
    (List.forall_mem_cons.mp granted).2

end Core

section Machines

variable {α β : Type} {World : Type} [Clock World] [Journal World]

/-! ### Scripts -/

/-- What happens when a script is played. -/
def playHistory : Script α → Reactor queueDepth traceDepth timerCount → World → List Happening
  | .done _, _, _ => []
  | .ask service next, reactor, world =>
    reactor.core.happenings service ++
      playHistory (next (reactor.perform service world).1.1) (reactor.perform service world).1.2
        (reactor.perform service world).2

theorem playHistory_bind (script : Script α) (next : α → Script β)
    (reactor : Reactor queueDepth traceDepth timerCount) (world : World) :
    playHistory (script >>= next) reactor world =
      playHistory script reactor world ++
        playHistory (next (reactor.play script world).1.1) (reactor.play script world).1.2
          (reactor.play script world).2 := by
  induction script generalizing reactor world with
  | done result => rfl
  | ask service rest inductionHypothesis =>
    have later := inductionHypothesis (reactor.perform service world).1.1
      (reactor.perform service world).1.2 (reactor.perform service world).2
    rw [Script.ask_bind, playHistory, playHistory, List.append_assoc]
    exact congrArg (reactor.core.happenings service ++ ·) later

/-- A thing that happens in every way in which a script is played from a core. -/
def Core.Brings (script : Script α) (core : Core depth count) (happening : Happening) : Prop :=
  ∀ (traceDepth : Depth) (World : Type) [Clock World] [Journal World]
    (reactor : Reactor depth traceDepth count) (world : World),
    reactor.core = core → happening ∈ playHistory script reactor world

namespace Core.Brings

variable {core between : Core depth count} {happening : Happening} {script : Script α}
  {next : α → Script β} {middle : α}

theorem publish (place : QueueEnd) (event : Event) (core : Core depth count) :
    Brings (.publish place event) core (.published place event (core.publish place event).1) := by
  rintro traceDepth World clock journal reactor world rfl
  exact List.mem_append_left _ (List.mem_singleton.mpr rfl)

theorem first (brings : Brings script core happening) :
    Brings (script >>= next) core happening := by
  intro traceDepth World clock journal reactor world same
  rw [playHistory_bind]
  exact List.mem_append_left _ (brings traceDepth World reactor world same)

theorem second (only : PlaysOnly script core middle between)
    (brings : Brings (next middle) between happening) :
    Brings (script >>= next) core happening := by
  intro traceDepth World clock journal reactor world same
  obtain ⟨result, after⟩ := reactor.play_only (same ▸ only) world
  rw [playHistory_bind, result]
  exact List.mem_append_right _ (brings traceDepth World _ _ after)

end Core.Brings

/-! ### Events -/

variable {Body : Type} [Machine Body]

/-- What happens when an event is offered to machines. -/
def offerHistory (event : Event) :
    List (Nat × Agent Body) → Reactor queueDepth traceDepth timerCount → World → List Happening
  | [], _, _ => []
  | (name, agent) :: rest, reactor, world =>
    let (((given, _), after), onward) := reactor.play (agent.dispatch event) world
    (if given then [.given name event] else []) ++
      playHistory (agent.dispatch event) reactor world ++ offerHistory event rest after onward

/-- What happens when events are handed out. -/
def pendingHistory (names : List Nat) :
    Nat → List (Agent Body) → Reactor queueDepth traceDepth timerCount → World → List Happening
  | 0, _, _, _ => []
  | budget + 1, agents, reactor, world =>
    match reactor.next? with
    | none => []
    | some (event, reactor) =>
      let ((agents', after), onward) := reactor.offer event agents world
      .taken event :: offerHistory event (names.zip agents) reactor world ++
        pendingHistory names budget agents' after onward

theorem length_offer (event : Event) (agents : List (Agent Body))
    (reactor : Reactor queueDepth traceDepth timerCount) (world : World) :
    (reactor.offer event agents world).1.1.length = agents.length := by
  induction agents generalizing reactor world with
  | nil => rfl
  | cons agent rest inductionHypothesis =>
    exact congrArg (· + 1) (inductionHypothesis (reactor.play (agent.dispatch event) world).1.2
      (reactor.play (agent.dispatch event) world).2)

/-! ### Runs -/

namespace Session

/-- What happens with a move. -/
def happenings (names : List Nat)
    (session : Session Body World queueDepth traceDepth timerCount) :
    Move World → List Happening
  | .publish place event => session.core.happenings (.publish place event)
  | .startTimer index ticks => session.core.happenings (.startTimer index ticks)
  | .stopTimer index => session.core.happenings (.stopTimer index)
  | .tick => session.core.tickHappenings
  | .drain budget => pendingHistory names budget session.agents session.reactor session.world
  | .launch place id =>
    match session.agents[place]? with
    | none => []
    | some agent => playHistory (agent.start id) session.reactor session.world
  | .meanwhile _ => []

/-- What happens in a run. -/
def history (names : List Nat) (session : Session Body World queueDepth traceDepth timerCount) :
    List (Move World) → List Happening
  | [] => []
  | move :: rest => session.happenings names move ++ (session.move move).history names rest

theorem history_append (names : List Nat)
    (session : Session Body World queueDepth traceDepth timerCount) (before after : List (Move World)) :
    session.history names (before ++ after) =
      session.history names before ++ (session.run before).history names after := by
  induction before generalizing session with
  | nil => rfl
  | cons move rest inductionHypothesis =>
    rw [List.cons_append, history, history, inductionHypothesis, List.append_assoc, run_cons]

end Session

end Machines

end BusNode.Reactor
