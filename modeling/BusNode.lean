import BusNode.About
import BusNode.Adu
import BusNode.Checksum
import BusNode.Clock
import BusNode.Error
import BusNode.Event.Basic
import BusNode.Event.Catalog
import BusNode.Event.Queue
import BusNode.Event.Queue.View
import BusNode.Fault
import BusNode.Frame.Buffer
import BusNode.Hex
import BusNode.Journal
import BusNode.Line.Basic
import BusNode.Line.Serial
import BusNode.Link.Basic
import BusNode.Link.Config
import BusNode.Link.Outcome
import BusNode.Link.Send
import BusNode.Link.Service
import BusNode.Link.Stats
import BusNode.Machine.Agent
import BusNode.Machine.Script
import BusNode.Node
import BusNode.Reactor.Basic
import BusNode.Reactor.Config
import BusNode.Reactor.Run
import BusNode.Reply
import BusNode.Request.Build
import BusNode.Request.FunctionCode
import BusNode.Request.Relay
import BusNode.Ring.Basic
import BusNode.Ring.Depth
import BusNode.Ring.View
import BusNode.Sim.Bench
import BusNode.Sim.Clock
import BusNode.Sim.Device
import BusNode.Sim.Faults
import BusNode.Sim.Rehearsal
import BusNode.Sim.Rules
import BusNode.Sim.Wire
import BusNode.Supervisor
import BusNode.Timer
import BusNode.Trace.Log
import BusNode.Trace.Mask
import BusNode.Trace.View
import BusNode.Word
import BusNode.Proofs.Effect
import BusNode.Proofs.Link.Step
import BusNode.Proofs.Link.Send
import BusNode.Proofs.Link.Session
import BusNode.Proofs.Link.Tally
import BusNode.Proofs.Link.Waiting
import BusNode.Proofs.Frame.Log
import BusNode.Proofs.Link.Segments
import BusNode.Proofs.Link.Matching
import BusNode.Proofs.Link.ReplyLength
import BusNode.Proofs.Link.Gathering
import BusNode.Proofs.Link.Lateness
import BusNode.Proofs.Link.Arrival
import BusNode.Proofs.Link.Hearing
import BusNode.Proofs.Link.Sending
import BusNode.Proofs.Link.Query
import BusNode.Proofs.Link.Pair
import BusNode.Proofs.Link.Dialogue
import BusNode.Proofs.Link.Transfer
import BusNode.Proofs.Sim.Clock
import BusNode.Proofs.Link.Timeout
import BusNode.Proofs.Link.Blocking
import BusNode.Proofs.Reactor.Core
import BusNode.Proofs.Reactor.Played
import BusNode.Proofs.Supervisor.Handling
import BusNode.Proofs.Reactor.Session
import BusNode.Proofs.Supervisor.Silence
import BusNode.Proofs.Supervisor.Restart
import BusNode.Proofs.Ring.Deque
import BusNode.Proofs.Reactor.Timeouts
import BusNode.Proofs.Supervisor.Agreement
import BusNode.Proofs.Supervisor.Patience
import BusNode.Proofs.Supervisor.Draining
import BusNode.Proofs.Link.Judging
import BusNode.Proofs.Reactor.Faithful
import BusNode.Proofs.Reactor.Crowd
import BusNode.Proofs.Link.Counters
import BusNode.Proofs.Reactor.Bracketed
import BusNode.Proofs.Reactor.Unperturbed
import BusNode.Proofs.Supervisor.Solitude
import BusNode.Proofs.Checksum.Burst
import BusNode.Proofs.Line.Serial
import BusNode.Proofs.Reply.Verdict
import BusNode.Proofs.Link.Refusal
import BusNode.Proofs.Reactor.Unattended
import BusNode.Proofs.Timer.Countdown
import BusNode.Proofs.Timer.Unarmed
import BusNode.Proofs.Reactor.Ticks
import BusNode.Proofs.Link.Release
import BusNode.Proofs.Hex.Grammar
import BusNode.Proofs.Frame.HexText
import BusNode.Proofs.Checksum.Sealing
import BusNode.Proofs.Frame.Truncation
import BusNode.Proofs.Trace.Mask
import BusNode.Proofs.Trace.Retention
import BusNode.Proofs.Link.Rate
import BusNode.Proofs.Supervisor.Naming
