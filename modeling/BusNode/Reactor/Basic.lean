/-
This file defines the reactor, which brings together the queue of events, the trace and the timers
of a node. Every event that is published is also offered to the trace, with the time. An event that
finds no room in the queue leaves a second mark there, with the same time, so that the loss can be
seen afterwards.
-/
import BusNode.Clock
import BusNode.Event.Queue
import BusNode.Reactor.Config
import BusNode.Timer
import BusNode.Trace.Log

namespace BusNode

/-- The queue, the trace and the timers of a node. -/
structure Reactor (queueDepth traceDepth : Depth) (timerCount : Nat) where
  queue : EventQueue queueDepth
  trace : TraceLog traceDepth
  timers : TimerBank timerCount
  config : Reactor.Config

namespace Reactor

variable {queueDepth traceDepth : Depth} {timerCount : Nat}

/-- A reactor in which nothing has happened. -/
def idle (config : Config) : Reactor queueDepth traceDepth timerCount :=
  { queue := .empty, trace := .empty, timers := .idle, config }

/-- Offers an event to the trace. -/
def record (time : UInt32) (event : Event) (reactor : Reactor queueDepth traceDepth timerCount) :
    Reactor queueDepth traceDepth timerCount :=
  { reactor with trace := reactor.trace.write time event }

/-- Takes the next event from the queue. -/
def next? (reactor : Reactor queueDepth traceDepth timerCount) :
    Option (Event × Reactor queueDepth traceDepth timerCount) :=
  reactor.queue.next?.map fun (event, queue) => (event, { reactor with queue })

section Operations

variable {World : Type} [Clock World] [Journal World]

/-! ### Events -/

/-- Publishes an event at one end of the queue, and says whether there was room. A null event is
taken as published. -/
def publish (place : QueueEnd) (event : Event)
    (reactor : Reactor queueDepth traceDepth timerCount) :
    StateM World (Bool × Reactor queueDepth traceDepth timerCount) := do
  if event.isNil then return (true, reactor)
  else
    let time ← Clock.millis
    let reactor := reactor.record time event
    match reactor.queue.insert? place event with
    | some queue => return (true, { reactor with queue })
    | none =>
      Journal.note (.queueFull event.id)
      return (false, reactor.record time (.queueFull event.id))

/-- Offers an event to the trace, with the time. -/
def traceEvent (event : Event) (reactor : Reactor queueDepth traceDepth timerCount) :
    StateM World (Reactor queueDepth traceDepth timerCount) := do
  let time ← Clock.millis
  return reactor.record time event

/-! ### Timers -/

/-- Passes on one thing that the timers have to say. -/
def emit (emission : Emission) (reactor : Reactor queueDepth traceDepth timerCount) :
    StateM World (Reactor queueDepth traceDepth timerCount) := do
  match emission with
  | .trace event => reactor.traceEvent event
  | .publish event =>
    let (_, reactor) ← reactor.publish .back event
    return reactor
  | .note notice =>
    Journal.note notice
    return reactor

/-- Passes on what the timers have to say, in order. -/
def emitAll : List Emission → Reactor queueDepth traceDepth timerCount →
    StateM World (Reactor queueDepth traceDepth timerCount)
  | [], reactor => return reactor
  | emission :: rest, reactor => do
    let reactor ← reactor.emit emission
    emitAll rest reactor

/-- Starts a timer. The answer is its new cookie, if there is such a timer. -/
def startTimer (index : UInt8) (ticks : UInt16)
    (reactor : Reactor queueDepth traceDepth timerCount) :
    StateM World (Option UInt16 × Reactor queueDepth traceDepth timerCount) := do
  match reactor.timers.start? index ticks with
  | none => return (none, reactor)
  | some (cookie, emissions, timers) =>
    return (some cookie, ← emitAll emissions { reactor with timers })

/-- Stops a timer. -/
def stopTimer (index : UInt8) (reactor : Reactor queueDepth traceDepth timerCount) :
    StateM World (Reactor queueDepth traceDepth timerCount) := do
  let (emissions, timers) := reactor.timers.stop index
  emitAll emissions { reactor with timers }

/-- Serves the timers: one tick for each that is running. -/
def tick (reactor : Reactor queueDepth traceDepth timerCount) :
    StateM World (Reactor queueDepth traceDepth timerCount) := do
  let (emissions, timers) := reactor.timers.tick
  emitAll emissions { reactor with timers }

end Operations

end Reactor

end BusNode
