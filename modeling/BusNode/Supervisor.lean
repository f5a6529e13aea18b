/-
This file defines the machine that watches over the master of the bus. Every request for this node
is published as an event, and the supervisor starts its timer again on each. When the timer runs out
the master is lost, until the next request. A light shows which of the two it is.

The supervisor starts its timer on an event that it sends to itself, ahead of all others. So the
light and the timer are set in one place, on entry as well as on each request.
-/
import BusNode.Event.Catalog
import BusNode.Machine.Agent

namespace BusNode

/-- What the light of a node shows. -/
inductive LightPattern where
  /-- The master is there. -/
  | healthy
  /-- The master is lost. -/
  | noMaster
  deriving DecidableEq, Repr

/-- The machine that watches over the master of the bus. -/
structure Supervisor where
  /-- The timer that runs out when the master is lost. -/
  timer : UInt8 := 0
  /-- The patterns that the light was set to, oldest first. -/
  shown : List LightPattern := []
  deriving DecidableEq, Repr, Inhabited

namespace Supervisor

/-! ### Events -/

/-- The id of the event for a request to this node. -/
def masterCommsId : UInt8 := Event.firstApplicationId

/-- The event for a request to this node. -/
def masterComms : Event := { id := masterCommsId }

/-- What a catalog says about the events of a supervisor. -/
def events : List EventInfo :=
  [{ id := masterCommsId, name := "MASTER_COMMS",
     description := "Request from master received, used for comms timeout" }]

/-- The event that an outcome of the link calls for. Only requests to this node count as signs of
the master. -/
def eventFor? (outcome : Link.Outcome) : Option Event :=
  match outcome with
  | .requestForUs => some masterComms
  | _ => none

/-! ### States -/

/-- The state in which the master is there. -/
def running : UInt8 := 0

/-- The state in which the master is lost. -/
def lost : UInt8 := 1

/-- How long the master may be silent, in milliseconds. -/
def patience : UInt32 := 4000

/-- Sets the light. -/
def setLight (pattern : LightPattern) (agent : Agent Supervisor) : Agent Supervisor :=
  { agent with body := { agent.body with shown := agent.body.shown ++ [pattern] } }

/-- Whether the master is lost. -/
def isMasterLost (agent : Agent Supervisor) : Bool := agent.context.state = lost

/-! ### Behaviour -/

/-- Sets the light to healthy and starts the timer again. -/
def rearm (agent : Agent Supervisor) : Script (Agent Supervisor) := do
  let ticks ← Script.ticksIn patience
  let _ ← Script.startTimer agent.body.timer ticks
  return setLight .healthy agent

/-- What a supervisor does with an event while the master is there. -/
def handleRunning (event : Event) (agent : Agent Supervisor) :
    Script (Transition × Agent Supervisor) := do
  if event.id = Event.entryId ∨ event.id = masterCommsId then
    let _ ← Agent.postSelf agent.context
    return (.stay, agent)
  else if event.id = Event.selfId then return (.stay, ← rearm agent)
  else if event.id = Event.timerId ∧ event.p8 = agent.body.timer then
    return (.moveTo lost, agent)
  else return (.stay, agent)

/-- What a supervisor does with an event while the master is lost. -/
def handleLost (event : Event) (agent : Agent Supervisor) :
    Script (Transition × Agent Supervisor) := do
  if event.id = Event.entryId then
    Script.note (.masterLost agent.context.id)
    return (.stay, setLight .noMaster agent)
  else if event.id = masterCommsId then return (.moveTo running, agent)
  else return (.stay, agent)

instance : Machine Supervisor where
  handle event agent :=
    if agent.context.state = running then handleRunning event agent
    else if agent.context.state = lost then handleLost event agent
    else return (.stay, agent)

end Supervisor

end BusNode
