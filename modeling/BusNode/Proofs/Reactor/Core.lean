/-
This file takes a reactor down to what decides how it goes on: the events that wait, the timers and
the setting. Nothing that a reactor does depends on its trace. Of the world it asks the time alone,
and that goes into the trace or to a machine. So each operation acts on this core as a plain
function does, whatever the world is.
-/
import BusNode.Event.Queue.View
import BusNode.Proofs.Timer.Expiry
import BusNode.Reactor.Run

namespace BusNode.Reactor

/-- What decides how a reactor goes on. The depth says how many events may wait. -/
structure Core (depth : Depth) (count : Nat) where
  waiting : List Event
  timers : TimerBank count
  config : Config

/-! ### The operations as functions -/

namespace Core

variable {depth : Depth} {count : Nat}

/-- The events that wait when one has joined them. -/
def join (event : Event) (waiting : List Event) : QueueEnd → List Event
  | .back => waiting ++ [event]
  | .front => event :: waiting

def publish (place : QueueEnd) (event : Event) (core : Core depth count) :
    Bool × Core depth count :=
  if event.isNil then (true, core)
  else if core.waiting.length < depth.size then
    (true, { core with waiting := join event core.waiting place })
  else (false, core)

def emit (core : Core depth count) : Emission → Core depth count
  | .publish event => (core.publish .back event).2
  | .trace _ => core
  | .note _ => core

def emitAll (emissions : List Emission) (core : Core depth count) : Core depth count :=
  emissions.foldl emit core

def startTimer (index : UInt8) (ticks : UInt16) (core : Core depth count) :
    Option UInt16 × Core depth count :=
  match core.timers.start? index ticks with
  | none => (none, core)
  | some (cookie, emissions, timers) => (some cookie, emitAll emissions { core with timers })

def stopTimer (index : UInt8) (core : Core depth count) : Core depth count :=
  emitAll (core.timers.stop index).1 { core with timers := (core.timers.stop index).2 }

def tick (core : Core depth count) : Core depth count :=
  emitAll core.timers.tick.1 { core with timers := core.timers.tick.2 }

/-- Answers one service at a time. -/
def perform (now : UInt32) (service : Service) (core : Core depth count) :
    service.Answer × Core depth count :=
  match service with
  | .publish place event => core.publish place event
  | .trace _ => ((), core)
  | .startTimer index ticks => core.startTimer index ticks
  | .stopTimer index => ((), core.stopTimer index)
  | .ticksLeft index => (core.timers.remaining index, core)
  | .isCurrent event => (core.timers.isCurrent event, core)
  | .ticksIn time => (core.config.ticksIn time, core)
  | .now => (now, core)
  | .note _ => ((), core)

/-! ### What an operation changes -/

theorem publish_of_room {event : Event} (real : event.isNil = false) (place : QueueEnd)
    {core : Core depth count} (room : core.waiting.length < depth.size) :
    core.publish place event = (true, { core with waiting := join event core.waiting place }) := by
  simp [publish, real, room]

theorem publish_of_full {event : Event} (real : event.isNil = false) (place : QueueEnd)
    {core : Core depth count} (full : depth.size ≤ core.waiting.length) :
    core.publish place event = (false, core) := by
  simp [publish, real, Nat.not_lt.mpr full]

/-- An event that is not refused joins the queue. -/
theorem publish_of_granted {event : Event} (real : event.isNil = false) (place : QueueEnd)
    {core : Core depth count} (granted : (core.publish place event).1 = true) :
    (core.publish place event).2 = { core with waiting := join event core.waiting place } := by
  by_cases room : core.waiting.length < depth.size
  · rw [publish_of_room real place room]
  · rw [publish_of_full real place (Nat.not_lt.mp room)] at granted
    cases granted

/-- What waits goes on waiting when an event is published. -/
theorem mem_publish (place : QueueEnd) (event : Event) {core : Core depth count} {other : Event}
    (waits : other ∈ core.waiting) : other ∈ (core.publish place event).2.waiting := by
  unfold publish
  split
  · exact waits
  · split
    · cases place
      · exact List.mem_append_left _ waits
      · exact List.mem_cons_of_mem _ waits
    · exact waits

theorem mem_emitAll (emissions : List Emission) {core : Core depth count} {other : Event}
    (waits : other ∈ core.waiting) : other ∈ (emitAll emissions core).waiting := by
  induction emissions generalizing core with
  | nil => exact waits
  | cons emission rest inductionHypothesis =>
    have after : other ∈ (core.emit emission).waiting := by
      cases emission with
      | trace event => exact waits
      | note notice => exact waits
      | publish event => exact mem_publish .back event waits
    exact inductionHypothesis after

@[simp] theorem config_publish (place : QueueEnd) (event : Event) (core : Core depth count) :
    (core.publish place event).2.config = core.config := by
  unfold publish
  split
  · rfl
  · split <;> rfl

@[simp] theorem config_emitAll (emissions : List Emission) (core : Core depth count) :
    (emitAll emissions core).config = core.config := by
  induction emissions generalizing core with
  | nil => rfl
  | cons emission rest inductionHypothesis =>
    refine (inductionHypothesis (core.emit emission)).trans ?_
    cases emission with
    | trace event => rfl
    | note notice => rfl
    | publish event => exact config_publish .back event core

@[simp] theorem timers_publish (place : QueueEnd) (event : Event) (core : Core depth count) :
    (core.publish place event).2.timers = core.timers := by
  unfold publish
  split
  · rfl
  · split <;> rfl

@[simp] theorem timers_emitAll (emissions : List Emission) (core : Core depth count) :
    (emitAll emissions core).timers = core.timers := by
  induction emissions generalizing core with
  | nil => rfl
  | cons emission rest inductionHypothesis =>
    refine (inductionHypothesis (core.emit emission)).trans ?_
    cases emission with
    | trace event => rfl
    | note notice => rfl
    | publish event => exact timers_publish .back event core

/-- What timers say without publishing changes nothing. -/
theorem emitAll_of_silent {emissions : List Emission} {core : Core depth count}
    (silent : ∀ event, .publish event ∉ emissions) : emitAll emissions core = core := by
  induction emissions with
  | nil => rfl
  | cons emission rest inductionHypothesis =>
    have later := inductionHypothesis fun event member => silent event (List.mem_cons_of_mem _ member)
    cases emission with
    | publish event => exact absurd List.mem_cons_self (silent event)
    | trace _ | note _ => exact later

/-- Of events that are published behind one another those are queued for which there is room. -/
theorem emitAll_publish {events : List Event} (real : ∀ event ∈ events, event.isNil = false)
    (core : Core depth count) :
    emitAll (events.map .publish) core =
      { core with
        waiting := core.waiting ++ events.take (depth.size - core.waiting.length) } := by
  induction events generalizing core with
  | nil => simp [emitAll]
  | cons event rest inductionHypothesis =>
    obtain ⟨real, later⟩ := List.forall_mem_cons.mp real
    have step : emitAll ((event :: rest).map .publish) core =
        emitAll (rest.map .publish) (core.publish .back event).2 := rfl
    rw [step, inductionHypothesis later]
    by_cases room : core.waiting.length < depth.size
    · obtain ⟨left, more⟩ : ∃ left, depth.size - core.waiting.length = left + 1 :=
        ⟨depth.size - core.waiting.length - 1, by omega⟩
      have fewer : depth.size - (core.waiting ++ [event]).length = left := by
        rw [List.length_append, List.length_singleton]
        omega
      rw [publish_of_room real .back room, more, List.take_succ_cons,
        List.append_cons]
      simp only [join, fewer]
    · have full := Nat.not_lt.mp room
      rw [publish_of_full real .back full, Nat.sub_eq_zero_of_le full, List.take_zero,
        List.take_zero]

theorem tick_eq (core : Core depth count) :
    core.tick =
      { core with
        waiting := core.waiting ++
          core.timers.expiring.take (depth.size - core.waiting.length)
        timers := core.timers.tick.2 } :=
  emitAll_publish (fun _ said => TimerBank.isNil_of_mem_expiring said)
    { core with timers := core.timers.tick.2 }

/-- The start of a timer that is given ticks publishes nothing. -/
theorem startTimer_of_start? {index : UInt8} {ticks cookie : UInt16} {emissions : List Emission}
    {core : Core depth count} {timers : TimerBank count} (positive : ticks ≠ 0)
    (start : core.timers.start? index ticks = some (cookie, emissions, timers)) :
    core.startTimer index ticks = (some cookie, { core with timers }) := by
  have silent : emissions =
      [.trace (.timerArm index ticks), .note (.timerArmed index ticks cookie)] := by
    unfold TimerBank.start? at start
    split at start
    · cases start
      simp [TimerBank.startEmissions, positive]
    · cases start
  rw [startTimer, start, silent]
  rfl

section Others

variable {wanted : Event → Bool} {core : Core depth count}

/-- An event that is not among the wanted ones leaves those as they wait. -/
theorem filter_publish {event : Event} (unwanted : wanted event = false) (place : QueueEnd) :
    (core.publish place event).2.waiting.filter wanted = core.waiting.filter wanted := by
  unfold publish
  split
  · rfl
  · split
    · cases place <;> simp [join, unwanted]
    · rfl

theorem filter_emitAll {emissions : List Emission}
    (unwanted : ∀ event, .publish event ∈ emissions → wanted event = false) :
    (emitAll emissions core).waiting.filter wanted = core.waiting.filter wanted := by
  induction emissions generalizing core with
  | nil => rfl
  | cons emission rest inductionHypothesis =>
    refine (inductionHypothesis fun event member =>
      unwanted event (List.mem_cons_of_mem _ member)).trans ?_
    cases emission with
    | trace event => rfl
    | note notice => rfl
    | publish event => exact filter_publish (unwanted event List.mem_cons_self) .back

end Others

end Core

/-! ### A reactor acts as its core does -/

variable {queueDepth traceDepth : Depth} {timerCount : Nat}

/-- The core of a reactor. -/
def core (reactor : Reactor queueDepth traceDepth timerCount) : Core queueDepth timerCount :=
  { waiting := reactor.queue.toList, timers := reactor.timers, config := reactor.config }

theorem next?_eq_none_iff (reactor : Reactor queueDepth traceDepth timerCount) :
    reactor.next? = none ↔ reactor.core.waiting = [] := by
  rw [next?, Option.map_eq_none_iff]
  exact reactor.queue.next?_eq_none_iff

/-- Taking the next event leaves all but that event. -/
theorem core_of_next? {event : Event} {reactor rest : Reactor queueDepth traceDepth timerCount}
    (taken : reactor.next? = some (event, rest)) :
    reactor.core.waiting = event :: rest.core.waiting ∧
      rest.core = { reactor.core with waiting := rest.core.waiting } := by
  obtain ⟨⟨oldest, queue⟩, found, same⟩ := Option.map_eq_some_iff.mp taken
  obtain ⟨rfl, rfl⟩ := Prod.mk.inj same
  exact ⟨EventQueue.toList_of_next? found, rfl⟩

section Operations

variable {World : Type} [Clock World] [Journal World]

theorem core_publish (place : QueueEnd) (event : Event)
    (reactor : Reactor queueDepth traceDepth timerCount) (world : World) :
    Prod.map id core (reactor.publish place event world).1 = reactor.core.publish place event := by
  unfold publish Core.publish
  cases null : event.isNil with
  | true => rfl
  | false =>
    have refused : reactor.queue.insert? place event = none ↔
        reactor.core.waiting.length = queueDepth.size :=
      EventQueue.insert?_eq_none_iff null place reactor.queue
    have bound : reactor.core.waiting.length ≤ queueDepth.size :=
      (EventQueue.length_toList reactor.queue).symm ▸ reactor.queue.length_le
    simp only [Bool.false_eq_true, if_false]
    cases inserted : reactor.queue.insert? place event with
    | none =>
      rw [if_neg (Nat.not_lt.mpr (Nat.le_of_eq (refused.mp inserted).symm))]
      simp only [record, inserted]
      rfl
    | some queue =>
      have room : reactor.core.waiting.length < queueDepth.size := by
        refine Nat.lt_of_le_of_ne bound fun full => ?_
        rw [refused.mpr full] at inserted
        cases inserted
      have grown : queue.toList = Core.join event reactor.core.waiting place := by
        cases place with
        | back => exact EventQueue.toList_insert?_back null inserted
        | front => exact EventQueue.toList_insert?_front null inserted
      rw [if_pos room, ← grown]
      simp only [record, inserted]
      rfl

theorem core_emit (emission : Emission) (reactor : Reactor queueDepth traceDepth timerCount)
    (world : World) : (reactor.emit emission world).1.core = reactor.core.emit emission := by
  cases emission with
  | trace event => rfl
  | note notice => rfl
  | publish event => exact congrArg Prod.snd (core_publish .back event reactor world)

theorem core_emitAll (emissions : List Emission)
    (reactor : Reactor queueDepth traceDepth timerCount) (world : World) :
    (emitAll emissions reactor world).1.core = Core.emitAll emissions reactor.core := by
  induction emissions generalizing reactor world with
  | nil => rfl
  | cons emission rest inductionHypothesis =>
    refine (inductionHypothesis (reactor.emit emission world).1
      (reactor.emit emission world).2).trans ?_
    rw [core_emit]
    rfl

theorem core_startTimer (index : UInt8) (ticks : UInt16)
    (reactor : Reactor queueDepth traceDepth timerCount) (world : World) :
    Prod.map id core (reactor.startTimer index ticks world).1 =
      reactor.core.startTimer index ticks := by
  unfold startTimer Core.startTimer
  rw [show reactor.core.timers = reactor.timers from rfl]
  cases reactor.timers.start? index ticks with
  | none => rfl
  | some started =>
    obtain ⟨cookie, emissions, timers⟩ := started
    exact congrArg (Prod.mk (some cookie)) (core_emitAll emissions { reactor with timers } world)

theorem core_stopTimer (index : UInt8) (reactor : Reactor queueDepth traceDepth timerCount)
    (world : World) : (reactor.stopTimer index world).1.core = reactor.core.stopTimer index :=
  core_emitAll _ { reactor with timers := _ } world

theorem core_tick (reactor : Reactor queueDepth traceDepth timerCount) (world : World) :
    (reactor.tick world).1.core = reactor.core.tick :=
  core_emitAll _ { reactor with timers := _ } world

theorem core_perform (service : Service) (reactor : Reactor queueDepth traceDepth timerCount)
    (world : World) : ∃ now,
      Prod.map id core (reactor.perform service world).1 = reactor.core.perform now service := by
  cases service with
  | publish place event => exact ⟨0, core_publish place event reactor world⟩
  | trace event => exact ⟨0, rfl⟩
  | startTimer index ticks => exact ⟨0, core_startTimer index ticks reactor world⟩
  | stopTimer index => exact ⟨0, congrArg (Prod.mk ()) (core_stopTimer index reactor world)⟩
  | ticksLeft index => exact ⟨0, rfl⟩
  | isCurrent event => exact ⟨0, rfl⟩
  | ticksIn time => exact ⟨0, rfl⟩
  | now => exact ⟨(Clock.millis world).1, rfl⟩
  | note notice => exact ⟨0, rfl⟩

end Operations

end BusNode.Reactor
