/-
This file runs state machines on a reactor. The reactor answers the services that a machine asks
for, and hands out the events in its queue: each is taken once and offered to every machine in turn,
until the queue is empty.

A machine may publish an event for every event that it is given, and then the queue never empties.
So a caller says how many events it is ready to hand out.
-/
import BusNode.Machine.Agent
import BusNode.Reactor.Basic

namespace BusNode.Reactor

variable {queueDepth traceDepth : Depth} {timerCount : Nat}
variable {World : Type} [Clock World] [Journal World]

/-! ### Services -/

/-- Answers one service. -/
def perform (service : Service) (reactor : Reactor queueDepth traceDepth timerCount) :
    StateM World (service.Answer × Reactor queueDepth traceDepth timerCount) :=
  match service with
  | .publish place event => reactor.publish place event
  | .trace event => do return ((), ← reactor.traceEvent event)
  | .startTimer index ticks => reactor.startTimer index ticks
  | .stopTimer index => do return ((), ← reactor.stopTimer index)
  | .ticksLeft index => return (reactor.timers.remaining index, reactor)
  | .isCurrent event => return (reactor.timers.isCurrent event, reactor)
  | .ticksIn time => return (reactor.config.ticksIn time, reactor)
  | .now => do return (← Clock.millis, reactor)
  | .note notice => do return (← Journal.note notice, reactor)

/-- Runs a script to its end. -/
def play {α : Type} : Script α → Reactor queueDepth traceDepth timerCount →
    StateM World (α × Reactor queueDepth traceDepth timerCount)
  | .done result, reactor => return (result, reactor)
  | .ask service next, reactor => do
    let (answer, reactor) ← reactor.perform service
    play (next answer) reactor

/-! ### Handing out events -/

section Machines

variable {Body : Type} [Machine Body]

/-- Offers an event to every machine in turn. -/
def offer (event : Event) : List (Agent Body) → Reactor queueDepth traceDepth timerCount →
    StateM World (List (Agent Body) × Reactor queueDepth traceDepth timerCount)
  | [], reactor => return ([], reactor)
  | agent :: rest, reactor => do
    let ((_, agent), reactor) ← reactor.play (agent.dispatch event)
    let (rest, reactor) ← offer event rest reactor
    return (agent :: rest, reactor)

/-- Hands out events until the queue is empty, but no more than the given number. The answer is how
many were taken. -/
def runPending : Nat → List (Agent Body) → Reactor queueDepth traceDepth timerCount →
    StateM World (Nat × List (Agent Body) × Reactor queueDepth traceDepth timerCount)
  | 0, agents, reactor => return (0, agents, reactor)
  | budget + 1, agents, reactor => do
    match reactor.next? with
    | none => return (0, agents, reactor)
    | some (event, reactor) =>
      let (agents, reactor) ← reactor.offer event agents
      let (count, agents, reactor) ← runPending budget agents reactor
      return (count + 1, agents, reactor)

end Machines

end BusNode.Reactor
