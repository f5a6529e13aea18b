/-
This file takes publication apart. What a reactor does to its trace or to its queue it does at one
stroke, but a publication is several such strokes: the event goes to the trace, then to the queue,
and if it is refused there a mark goes to the trace. Between them others may have their turn: any
number of producers, the timers, and the application that takes events.

A crowd is a reactor and all who use it, each with what it has yet to do. If nobody comes between,
the strokes of a publication do what the publication does.
-/
import BusNode.Reactor.Run
import Mathlib.Logic.Function.Basic

namespace BusNode.Reactor

variable {queueDepth traceDepth : Depth} {timerCount : Nat}

/-! ### Strokes -/

/-- What is done at one stroke. -/
inductive Stroke where
  /-- An event goes to the trace. -/
  | record (event : Event)
  /-- An event goes to the queue. -/
  | insert (place : QueueEnd) (event : Event)

/-- Does one stroke. The answer is what has to follow: a mark, if an event is refused. -/
def strike (now : UInt32) (reactor : Reactor queueDepth traceDepth timerCount) :
    Stroke → List Stroke × Reactor queueDepth traceDepth timerCount
  | .record event => ([], reactor.record now event)
  | .insert place event =>
    match reactor.queue.insert? place event with
    | some queue => ([], { reactor with queue })
    | none => ([.record (.queueFull event.id)], reactor)

/-- The strokes of a publication. A null event is taken as published. -/
def strokes (place : QueueEnd) (event : Event) : List Stroke :=
  if event.isNil then [] else [.record event, .insert place event]

end Reactor

/-- The strokes that pass on what the timers have to say. -/
def Emission.strokes : Emission → List Reactor.Stroke
  | .trace event => [.record event]
  | .publish event => Reactor.strokes .back event
  | .note _ => []

namespace Reactor

/-! ### Timers -/

/-- What is asked of the timers. -/
inductive Order where
  | start (index : UInt8) (ticks : UInt16)
  | stop (index : UInt8)
  | tick

/-- What the timers have to say, and the timers afterwards. -/
def Order.apply (timers : TimerBank timerCount) : Order → List Emission × TimerBank timerCount
  | start index ticks =>
    match timers.start? index ticks with
    | none => ([], timers)
    | some (_, emissions, timers) => (emissions, timers)
  | stop index => timers.stop index
  | tick => timers.tick

section Orders

variable {World : Type} [Clock World] [Journal World]

/-- What a reactor does that is asked something of its timers. -/
def serve (order : Order) (reactor : Reactor queueDepth traceDepth timerCount) :
    StateM World (Reactor queueDepth traceDepth timerCount) :=
  match order with
  | .start index ticks => do
    let (_, reactor) ← reactor.startTimer index ticks
    return reactor
  | .stop index => reactor.stopTimer index
  | .tick => reactor.tick

/-- It passes on what the timers have to say. -/
theorem serve_eq (order : Order) (reactor : Reactor queueDepth traceDepth timerCount)
    (world : World) :
    reactor.serve order world =
      emitAll (order.apply reactor.timers).1
        { reactor with timers := (order.apply reactor.timers).2 } world := by
  cases order with
  | stop index => rfl
  | tick => rfl
  | start index ticks =>
    simp only [serve, startTimer, Order.apply]
    cases reactor.timers.start? index ticks with
    | none => rfl
    | some started => rfl

end Orders

/-! ### Crowds -/

/-- Who has something to do with the queue or the trace. -/
inductive Source where
  | producer (name : Nat)
  | timers
  deriving DecidableEq

/-- A reactor and all who use it. -/
structure Crowd (queueDepth traceDepth : Depth) (timerCount : Nat) where
  reactor : Reactor queueDepth traceDepth timerCount
  /-- What each has yet to do, in order. -/
  todo : Source → List Stroke := fun _ => []

/-- What happens next in a crowd. -/
inductive Crowd.Step (traceDepth : Depth) where
  /-- A producer sets out to publish an event. -/
  | publish (name : Nat) (place : QueueEnd) (event : Event)
  /-- The timers are asked for something. -/
  | order (order : Order)
  /-- Someone does the next stroke, at a time. -/
  | go (source : Source) (now : UInt32)
  /-- The next event is taken from the queue. -/
  | take
  /-- The trace is read, cleared, or changed in any way. -/
  | edit (change : TraceLog traceDepth → TraceLog traceDepth)

namespace Crowd

/-- Gives someone strokes to do after all others. -/
def assign (source : Source) (strokes : List Stroke)
    (crowd : Crowd queueDepth traceDepth timerCount) : Crowd queueDepth traceDepth timerCount :=
  { crowd with todo := Function.update crowd.todo source (crowd.todo source ++ strokes) }

def step (crowd : Crowd queueDepth traceDepth timerCount) :
    Step traceDepth → Crowd queueDepth traceDepth timerCount
  | .publish name place event => crowd.assign (.producer name) (strokes place event)
  | .order order =>
    let (emissions, timers) := order.apply crowd.reactor.timers
    assign .timers (emissions.flatMap Emission.strokes)
      { crowd with reactor := { crowd.reactor with timers } }
  | .go source now =>
    match crowd.todo source with
    | [] => crowd
    | stroke :: rest =>
      let (more, reactor) := crowd.reactor.strike now stroke
      { reactor, todo := Function.update crowd.todo source (more ++ rest) }
  | .take =>
    match crowd.reactor.next? with
    | none => crowd
    | some (_, reactor) => { crowd with reactor }
  | .edit change =>
    { crowd with reactor := { crowd.reactor with trace := change crowd.reactor.trace } }

def run (crowd : Crowd queueDepth traceDepth timerCount) (steps : List (Step traceDepth)) :
    Crowd queueDepth traceDepth timerCount := steps.foldl step crowd

theorem run_append (crowd : Crowd queueDepth traceDepth timerCount)
    (before after : List (Step traceDepth)) :
    crowd.run (before ++ after) = (crowd.run before).run after := List.foldl_append

theorem go_of_cons {crowd : Crowd queueDepth traceDepth timerCount} {source : Source}
    {stroke : Stroke} {rest : List Stroke} (next : crowd.todo source = stroke :: rest)
    (now : UInt32) :
    crowd.step (.go source now) =
      { reactor := (crowd.reactor.strike now stroke).2
        todo := Function.update crowd.todo source
          ((crowd.reactor.strike now stroke).1 ++ rest) } := by
  rw [step, next]

/-! ### Strokes in a row -/

section Rows

variable {World : Type} [Clock World] [Journal World]
variable {crowd : Crowd queueDepth traceDepth timerCount} {source : Source} {rest : List Stroke}

/-- The strokes of a publication, one right after the other, do what the publication does. -/
theorem publish_in_a_row {place : QueueEnd} {event : Event}
    (next : crowd.todo source = strokes place event ++ rest) (world : World) :
    ∃ times : List UInt32, crowd.run (times.map (.go source)) =
      { reactor := (crowd.reactor.publish place event world).1.2
        todo := Function.update crowd.todo source rest } := by
  obtain ⟨reactor, todo⟩ := crowd
  -- A publication reads the clock once, and its mark has the time of the event.
  let now := ((Clock.millis : StateM World UInt32) world).1
  unfold strokes at next
  unfold Reactor.publish
  cases null : event.isNil with
  | true =>
    rw [null, if_pos rfl, List.nil_append] at next
    exact ⟨[], by rw [← next, Function.update_eq_self]; rfl⟩
  | false =>
    rw [null, if_neg Bool.false_ne_true] at next
    have both : (Crowd.mk reactor todo).todo source =
        .record event :: .insert place event :: rest := next
    have first := go_of_cons both now
    cases inserted : reactor.queue.insert? place event with
    | some queue =>
      refine ⟨[now, now], ?_⟩
      simp only [run, List.map_cons, List.map_nil, List.foldl_cons, List.foldl_nil, first]
      simp only [step, strike, record, inserted, Function.update_self, Function.update_idem,
        List.nil_append]
      rfl
    | none =>
      refine ⟨[now, now, now], ?_⟩
      simp only [run, List.map_cons, List.map_nil, List.foldl_cons, List.foldl_nil, first]
      simp only [step, strike, record, inserted, Function.update_self, Function.update_idem,
        List.cons_append, List.nil_append]
      rfl

theorem emit_in_a_row {emission : Emission} (next : crowd.todo source = emission.strokes ++ rest)
    (world : World) :
    ∃ times : List UInt32, crowd.run (times.map (.go source)) =
      { reactor := (crowd.reactor.emit emission world).1
        todo := Function.update crowd.todo source rest } := by
  cases emission with
  | trace event =>
    refine ⟨[((Clock.millis : StateM World UInt32) world).1], ?_⟩
    exact go_of_cons next _
  | publish event => exact publish_in_a_row next world
  | note notice =>
    have nothing : Function.update crowd.todo source rest = crowd.todo :=
      (congrArg _ next.symm).trans (Function.update_eq_self _ _)
    exact ⟨[], by rw [nothing]; rfl⟩

/-- The strokes that pass on what the timers have to say, one right after the other, pass it on. -/
theorem emitAll_in_a_row {emissions : List Emission}
    (next : crowd.todo source = emissions.flatMap Emission.strokes ++ rest) (world : World) :
    ∃ times : List UInt32, crowd.run (times.map (.go source)) =
      { reactor := (emitAll emissions crowd.reactor world).1
        todo := Function.update crowd.todo source rest } := by
  induction emissions generalizing crowd world with
  | nil =>
    have nothing : Function.update crowd.todo source rest = crowd.todo :=
      (congrArg _ next.symm).trans (Function.update_eq_self _ _)
    exact ⟨[], by rw [nothing]; rfl⟩
  | cons emission others inductionHypothesis =>
    rw [List.flatMap_cons, List.append_assoc] at next
    obtain ⟨times, emitted⟩ := emit_in_a_row next world
    have left : (crowd.run (times.map (.go source))).todo source =
        others.flatMap Emission.strokes ++ rest := by
      rw [emitted]
      exact Function.update_self ..
    obtain ⟨later, ended⟩ := inductionHypothesis left (crowd.reactor.emit emission world).2
    refine ⟨times ++ later, ?_⟩
    rw [List.map_append, run_append, ended, emitted]
    simp only [Function.update_idem]
    rfl

/-- A producer that nobody disturbs publishes an event. -/
theorem publish_undisturbed {name : Nat} (resting : crowd.todo (.producer name) = [])
    (place : QueueEnd) (event : Event) (world : World) :
    ∃ times : List UInt32,
      crowd.run (.publish name place event :: times.map (.go (.producer name))) =
        { crowd with reactor := (crowd.reactor.publish place event world).1.2 } := by
  have next : (crowd.step (.publish name place event)).todo (.producer name) =
      strokes place event ++ [] := by
    rw [step, assign, resting, List.append_nil]
    exact Function.update_self ..
  obtain ⟨times, ended⟩ := publish_in_a_row next world
  refine ⟨times, ended.trans ?_⟩
  simp only [step, assign, Function.update_idem]
  rw [← resting, Function.update_eq_self]

/-- Timers that nobody disturbs do what they are asked. -/
theorem serve_undisturbed (resting : crowd.todo .timers = []) (order : Order) (world : World) :
    ∃ times : List UInt32, crowd.run (.order order :: times.map (.go .timers)) =
      { crowd with reactor := (crowd.reactor.serve order world).1 } := by
  have next : (crowd.step (.order order)).todo .timers =
      (order.apply crowd.reactor.timers).1.flatMap Emission.strokes ++ [] := by
    simp only [step, assign, Function.update_self, resting, List.nil_append, List.append_nil]
  obtain ⟨times, ended⟩ := emitAll_in_a_row next world
  refine ⟨times, ended.trans ?_⟩
  simp only [step, assign, Function.update_idem]
  rw [← resting, Function.update_eq_self, serve_eq]

end Rows

end Crowd

end BusNode.Reactor
