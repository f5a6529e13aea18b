/-
This file defines a whole node: a link, a reactor of the usual size, and a supervisor on it. A
node's main loop makes one pass after another. A pass runs a step of the link, works through what
the link reported, serves the timers when a tick is due, and hands out the events that wait.

The link and the reactor know nothing of each other. What a report means for the supervisor is
settled here.
-/
import BusNode.Link.Send
import BusNode.Reactor.Run
import BusNode.Supervisor

namespace BusNode

namespace Node

/-- Room for eight events. -/
def queueDepth : Depth := { exponent := 3 }

/-- Room for sixteen entries. -/
def traceDepth : Depth := { exponent := 4 }

/-- The timers of a node. -/
def timerCount : Nat := 4

/-- What a node does with the reports of its link, besides telling its supervisor. -/
structure Options where
  /-- Whether a request to this node is answered with the same frame. -/
  echo : Bool := false
  /-- The id under which every outcome is published, if it is. -/
  outcomeId : Option UInt8 := none
  deriving DecidableEq, Repr

end Node

/-- A link, a reactor and a supervisor. -/
structure Node where
  options : Node.Options := {}
  link : Link
  reactor : Reactor Node.queueDepth Node.traceDepth Node.timerCount
  supervisor : Agent Supervisor
  /-- When the timers are served next, in milliseconds. -/
  nextTick : UInt32 := 0

namespace Node

section Passes

variable {World : Type} [Clock World] [Line World] [Journal World] [Inbox World]

/-- Publishes an event behind all others. It is lost if the queue is full. -/
def publish (event : Event) (node : Node) : StateM World Node := do
  let (_, reactor) ← node.reactor.publish .back event
  return { node with reactor }

/-- Publishes an event if there is one. -/
def publish? (event : Option Event) (node : Node) : StateM World Node :=
  match event with
  | none => return node
  | some event => node.publish event

/-! ### Reports -/

/-- Answers a request to this node with the same frame, if the node is to do so. -/
def answer (patience : Nat) (report : Link.Report) (node : Node) :
    StateM World (Link.SendResult × Node) := do
  if node.options.echo && report.outcome = .requestForUs then
    let bare := Checksum.body report.frame
    let (result, link) ← node.link.slaveSend patience bare
    return (result, { node with link })
  else return (.sent, node)

/-- Does what one report calls for. Events are published only after the answer went out. -/
def react (patience : Nat) (report : Link.Report) (node : Node) :
    StateM World (Link.SendResult × Node) := do
  match ← node.answer patience report with
  | (.sent, node) =>
    let node ← node.publish? (Supervisor.eventFor? report.outcome)
    let node ← node.publish? (node.options.outcomeId.map report.outcome.toEvent)
    return (.sent, node)
  | unsent => return unsent

/-- Works through reports, up to the first whose answer does not go out. -/
def reactAll (patience : Nat) : List Link.Report → Node → StateM World (Link.SendResult × Node)
  | [], node => return (.sent, node)
  | report :: rest, node => do
    match ← node.react patience report with
    | (.sent, node) => reactAll patience rest node
    | unsent => return unsent

/-! ### Timers and events -/

/-- Serves the timers if a tick is due. -/
def serveTimers (node : Node) : StateM World Node := do
  let now ← Clock.millis
  if node.nextTick ≤ now then
    let reactor ← node.reactor.tick
    return { node with reactor, nextTick := node.nextTick + reactor.config.tickMs }
  else return node

/-- Hands out the events that wait. -/
def drain (budget : Nat) (node : Node) : StateM World Node := do
  let (_, agents, reactor) ← node.reactor.runPending budget [node.supervisor]
  return { node with reactor, supervisor := agents.headD node.supervisor }

/-! ### Passes -/

/-- One pass of the main loop. The pass ends early when an answer does not go out, and says so. -/
def pass (patience budget : Nat) (node : Node) : StateM World (Link.SendResult × Node) := do
  let link ← node.link.service
  match ← reactAll patience (← Inbox.collect) { node with link } with
  | (.sent, node) =>
    let node ← node.serveTimers
    let node ← node.drain budget
    return (.sent, node)
  | unsent => return unsent

end Passes

/-- Sets up a node: its link, its reactor with the given mask on the trace, and its supervisor under
the given id. A setting that is out of range is refused, one of the link before one of the
reactor. -/
def start {World : Type} [Clock World] [Journal World] (options : Options)
    (linkConfig : Link.Config) (reactorConfig : Reactor.Config) (mask : TraceMask) (id : UInt8) :
    StateM World (Except Error Node) := do
  match ← Link.start linkConfig with
  | .error error => return .error error
  | .ok link =>
    match reactorConfig.check with
    | .error error => return .error error
    | .ok () =>
      let reactor : Reactor queueDepth traceDepth timerCount := .idle reactorConfig
      let agent : Agent Supervisor := { body := {} }
      let (supervisor, reactor) ←
        { reactor with trace := reactor.trace.editMask fun _ => mask }.play (agent.start id)
      return .ok { options, link, reactor, supervisor }

end Node

end BusNode
