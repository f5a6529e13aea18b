/-
This file defines the step that a node's main loop runs as often as it can. A step does three things
in this order. It gives up on a reply that is overdue. It ends the frame that is coming in once the
line has been silent for long enough, classifies it and reports it. And it takes at most one byte
from the line.

How a frame is classified is a function of the link alone, `classify`: while a reply is awaited
every frame counts as the reply, and otherwise as a request.
-/
import BusNode.Clock
import BusNode.Line.Basic
import BusNode.Link.Basic

namespace BusNode.Link

/-! ### Classifying a frame -/

/-- The checks that make the frame that came in the answer to the request that went out. A frame
that lost bytes is refused for that, whatever the request. -/
def checkReply (link : Link) : Except ReplyFault Unit :=
  if link.inbound.overflow then .error (.frame .overflow)
  else Reply.check link.outbound.bytes link.inbound.bytes

/-- The class of a frame that came in while a reply was awaited. -/
def classifyReply (link : Link) : Outcome :=
  match link.checkReply with
  | .ok () => .replyAccepted
  | .error fault => .replyRefused fault

/-- The class of a frame that came in on its own. -/
def classifyRequest (link : Link) : Outcome :=
  match link.inbound.check with
  | .error fault => .requestInvalid fault
  | .ok () =>
    if link.inbound.slaveId? = some link.config.slaveId then .requestForUs else .requestForOther

/-- The class of the frame that came in. -/
def classify (link : Link) : Outcome :=
  if link.isBusy then link.classifyReply else link.classifyRequest

/-! ### The three parts of a step -/

section Parts

variable {World : Type} [Clock World] [Line World] [Journal World] [Listener World]

/-- Gives up on the reply that is awaited. -/
def expire (link : Link) : StateM World Link := do
  Journal.note .waitTimedOut
  Listener.report { outcome := .replyTimedOut, frame := [] }
  return { link with waitingSince := none, stats := link.stats.count .replyTimedOut }

/-- Gives up on the reply that is awaited, if it is overdue. -/
def checkDeadline (link : Link) : StateM World Link := do
  match link.waitingSince with
  | none => return link
  | some since =>
    let now ← Clock.millis
    if Clock.elapsed now since link.config.replyTimeout then link.expire else return link

/-- Classifies and reports the frame that came in. If a reply was awaited the wait is over. -/
def dispatch (link : Link) : StateM World Link := do
  let outcome := link.classify
  Journal.noteIf link.config.packetLogging
    (.packet "recv" link.inbound.slaveId? link.inbound.bytes)
  Journal.noteIf link.isBusy .waitCleared
  Journal.note (.frameReceived outcome link.inbound.length)
  Listener.report { outcome, frame := link.inbound.bytes }
  return { link with
    waitingSince := none
    stats := (link.stats.countFrame link.inbound.overflow).count outcome }

/-- Ends the frame that was coming in, and empties the buffer for the next one. -/
def endFrame (link : Link) : StateM World Link := do
  Journal.note .silence
  let link ← if link.inbound.isEmpty then pure link else link.dispatch
  return { link with lastByteAt := none, inbound := .empty }

/-- Ends the frame that was coming in, if the line has been silent for long enough. -/
def checkSilence (link : Link) : StateM World Link := do
  match link.lastByteAt with
  | none => return link
  | some last =>
    let now ← Clock.micros
    if Clock.elapsed now last link.config.interByteTimeout then link.endFrame else return link

/-- Stores a byte that came in, and when it did. -/
def store (byte : UInt8) (link : Link) : StateM World Link := do
  let (stored, inbound) := link.inbound.append byte
  Journal.noteIf (!stored && !link.inbound.overflow) (.receiveOverflow Adu.maxLength)
  let now ← Clock.micros
  return { link with inbound, lastByteAt := some now }

/-- Takes a byte from the line, if one is there. -/
def receive (link : Link) : StateM World Link := do
  match ← Line.read with
  | .error error =>
    Journal.note (.receiveFailed error)
    return { link with stats := link.stats.countLineError }
  | .ok none => return link
  | .ok (some byte) => link.store byte

/-! ### The step -/

/-- One step of the link. -/
def service (link : Link) : StateM World Link := do
  let link ← link.checkDeadline
  let link ← link.checkSilence
  link.receive

end Parts

end BusNode.Link
