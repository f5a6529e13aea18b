/-
This file defines a state machine for rehearsals. It follows a table of rules: the first rule that
fits the state and the event says which services to ask for and where to go. The machine writes down
every event it is given and every answer it gets.

A machine that publishes events can keep itself busy for ever. So a rule machine handles a limited
number of events in its life and ignores the others.
-/
import BusNode.Machine.Agent

namespace BusNode.Sim

/-! ### Rules -/

/-- One thing that a rule says to do. -/
inductive Deed where
  | publish (place : QueueEnd) (event : Event)
  | trace (event : Event)
  | startTimer (index : UInt8) (ticks : UInt16)
  | stopTimer (index : UInt8)
  /-- To look at a timer. -/
  | lookAtTimer (index : UInt8)
  /-- To ask whether the event at hand is a current timeout. -/
  | askCurrent
  | askTicks (time : UInt32)
  | askTime
  | postSelf
  /-- To change the machine's own context. -/
  | setContext (context : Context)
  deriving DecidableEq, Repr

/-- What came of a deed. -/
inductive Finding where
  | nothing
  | flag (holds : Bool)
  | cookie (cookie : Option UInt16)
  | timer (ticksLeft : UInt16) (isDone : Bool)
  | ticks (ticks : UInt16)
  | time (time : UInt32)
  deriving DecidableEq, Repr

/-- What to do in a state with an event. A part that is left out fits anything. -/
structure Rule where
  state : Option UInt8 := none
  id : Option UInt8 := none
  p8 : Option UInt8 := none
  deeds : List Deed := []
  /-- The state to go to. -/
  goal : Option UInt8 := none
  deriving DecidableEq, Repr

/-- Whether a part of a rule fits a value. -/
def Rule.partFits (part : Option UInt8) (value : UInt8) : Bool := part.all (· = value)

/-- Whether a rule fits a state and an event. -/
def Rule.fits (state : UInt8) (event : Event) (rule : Rule) : Bool :=
  partFits rule.state state && partFits rule.id event.id && partFits rule.p8 event.p8

/-! ### The machine -/

/-- A machine that follows a table of rules. -/
structure RuleMachine where
  rules : List Rule
  /-- How many events the machine handles in its life. -/
  limit : Nat
  /-- How many events the machine was given. -/
  count : Nat := 0
  /-- The events it was given, and the state it was in. -/
  seen : Array (UInt8 × Event) := #[]
  /-- What came of the deeds it did. -/
  findings : Array Finding := #[]
  deriving DecidableEq, Repr

namespace RuleMachine

/-- Does one deed. -/
def act (event : Event) (deed : Deed) (context : Context) : Script (Finding × Context) :=
  match deed with
  | .publish place published => return (.flag (← Script.publish place published), context)
  | .trace traced => do
    Script.trace traced
    return (.nothing, context)
  | .startTimer index ticks => return (.cookie (← Script.startTimer index ticks), context)
  | .stopTimer index => do
    Script.stopTimer index
    return (.nothing, context)
  | .lookAtTimer index => do
    let ticksLeft ← Script.ticksLeft index
    return (.timer ticksLeft (ticksLeft = 0), context)
  | .askCurrent => return (.flag (← Script.isCurrent event), context)
  | .askTicks time => return (.ticks (← Script.ticksIn time), context)
  | .askTime => return (.time (← Script.now), context)
  | .postSelf => return (.flag (← Agent.postSelf context), context)
  | .setContext changed => return (.nothing, changed)

/-- Does deeds in order, and writes down what came of each. -/
def actAll (event : Event) : List Deed → Agent RuleMachine → Script (Agent RuleMachine)
  | [], agent => return agent
  | deed :: rest, agent => do
    let (finding, context) ← act event deed agent.context
    actAll event rest
      { context, body := { agent.body with findings := agent.body.findings.push finding } }

/-- The transition that a rule asks for. -/
def transition (goal : Option UInt8) : Transition :=
  match goal with
  | none => .stay
  | some state => .moveTo state

instance : Machine RuleMachine where
  handle event agent := do
    let state := agent.context.state
    let body : RuleMachine := { agent.body with
      count := agent.body.count + 1
      seen := agent.body.seen.push (state, event) }
    let agent : Agent RuleMachine := { agent with body }
    if body.limit < body.count then return (.stay, agent)
    else
      match body.rules.find? (Rule.fits state event) with
      | none => return (.stay, agent)
      | some rule => return (transition rule.goal, ← actAll event rule.deeds agent)

/-- Forgets what was written down. -/
def clearNotes (machine : RuleMachine) : RuleMachine :=
  { machine with seen := #[], findings := #[] }

end RuleMachine

end BusNode.Sim
