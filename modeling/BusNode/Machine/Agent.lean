/-
This file defines state machines and how events reach them. A machine is in one of its states, which
are numbers, and answers an event by staying or by moving to a state. Leaving the old state and
entering the new one are events of their own, which the machine is given before anything else
happens.

Two kinds of events are held back: a timeout whose timer was stopped or started again since, and an
event that another machine has sent to itself.
-/
import BusNode.Machine.Script

namespace BusNode

/-! ### Machines -/

/-- The state of a machine and the id that tells it from others. -/
structure Context where
  state : UInt8 := 0
  id : UInt8 := 0
  deriving DecidableEq, Repr, Inhabited

/-- Whether a machine stays in its state or moves to another. -/
inductive Transition where
  | stay
  | moveTo (state : UInt8)
  deriving DecidableEq, Repr

/-- A machine at work: its context, and whatever else it keeps. -/
structure Agent (Body : Type) where
  context : Context := {}
  body : Body
  deriving DecidableEq, Repr, Inhabited

/-- A kind of state machine. -/
class Machine (Body : Type) where
  /-- What a machine does with an event. It may change all that it keeps. -/
  handle : Event → Agent Body → Script (Transition × Agent Body)

namespace Agent

variable {Body : Type}

/-- Queues an event ahead of all others that only the machine with this context is given. -/
def postSelf (context : Context) : Script Bool := Script.publish .front (.toSelf context.id)

/-! ### Giving events to a machine -/

section Events

variable [Machine Body]

/-- Gives a machine an event for which no transition counts. -/
def notify (event : Event) (agent : Agent Body) : Script (Agent Body) := do
  let (_, agent) ← Machine.handle event agent
  return agent

/-- Puts a machine into its first state, under the given id. -/
def start (id : UInt8) (agent : Agent Body) : Script (Agent Body) := do
  Script.note (.machineStarted id)
  notify .entry { agent with context := { state := 0, id } }

/-- Whether a machine may be given an event. -/
def admits (event : Event) (agent : Agent Body) : Script Bool := do
  if event.id = Event.timerId then
    if ← Script.isCurrent event then return true
    else
      Script.note (.staleTimeout event.p8 event.p16)
      return false
  else return event.id ≠ Event.selfId || event.p8 = agent.context.id

/-- Takes a machine from its state to another. It is told that it leaves, and, once the trace has
taken note, that it enters. -/
def moveTo (state : UInt8) (agent : Agent Body) : Script (Agent Body) := do
  let agent ← notify .exit agent
  Script.trace (.stateChange agent.context.id state)
  Script.note (.stateChanged agent.context.id agent.context.state state)
  notify .entry { agent with context := { agent.context with state } }

/-- Gives a machine an event that it may be given, and moves it if it asks to. -/
def deliver (event : Event) (agent : Agent Body) : Script (Agent Body) := do
  match ← Machine.handle event agent with
  | (.stay, agent) => return agent
  | (.moveTo state, agent) => moveTo state agent

/-- Offers an event to a machine, and says whether it was given the event. -/
def dispatch (event : Event) (agent : Agent Body) : Script (Bool × Agent Body) := do
  if ← agent.admits event then return (true, ← agent.deliver event)
  else return (false, agent)

end Events

end Agent

/-! ### Machines of several kinds -/

/-- A machine of either of two kinds. -/
instance {Left Right : Type} [Machine Left] [Machine Right] : Machine (Left ⊕ Right) where
  handle event agent :=
    match agent.body with
    | .inl body => do
      let (transition, agent) ← Machine.handle event { context := agent.context, body }
      return (transition, { context := agent.context, body := .inl agent.body })
    | .inr body => do
      let (transition, agent) ← Machine.handle event { context := agent.context, body }
      return (transition, { context := agent.context, body := .inr agent.body })

end BusNode
