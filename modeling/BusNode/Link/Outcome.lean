/-
This file lists what a link reports to the application: how one frame was classified, or how the
wait for a reply ended. A report comes with the bytes of the frame, which are none when the wait ran
out of time.

An outcome packs into an event. Its reason code alone does not say whether a frame came as a reply
or on its own, since both sides share the codes of frame faults; the class beside it does.
-/
import BusNode.Event.Basic
import BusNode.Fault

namespace BusNode

namespace Link

/-- How a frame was classified, or how the wait for a reply ended. -/
inductive Outcome where
  /-- The reply answers the outstanding request. -/
  | replyAccepted
  /-- No reply came in time. -/
  | replyTimedOut
  /-- A frame came while a reply was awaited, and is not the answer. -/
  | replyRefused (fault : ReplyFault)
  /-- A valid request for this node. -/
  | requestForUs
  /-- A valid request for another node. -/
  | requestForOther
  /-- A frame came while no reply was awaited, and is not valid. -/
  | requestInvalid (fault : FrameFault)
  deriving DecidableEq, Repr

namespace Outcome

/-- The reason code of an outcome. -/
def code : Outcome → UInt8
  | replyAccepted => 8
  | replyTimedOut => 9
  | replyRefused fault => fault.code
  | requestForUs => 4
  | requestForOther => 5
  | requestInvalid fault => fault.code

/-- Whether an outcome ends the wait for a reply. -/
def isReply : Outcome → Bool
  | replyAccepted | replyTimedOut | replyRefused _ => true
  | requestForUs | requestForOther | requestInvalid _ => false

/-- An outcome as an event of the given id: the reason code, and a class that is one for the end of
a wait and zero for any other frame. -/
def toEvent (id : UInt8) (outcome : Outcome) : Event :=
  { id, p8 := outcome.code, p16 := if outcome.isReply then 1 else 0 }

/-- The name under which an outcome appears in the journal, with its details. -/
def label : Outcome → String
  | replyAccepted => "ResponseOk"
  | replyTimedOut => "ResponseTimeout"
  | replyRefused fault => s!"ResponseCorrupt({fault.label})"
  | requestForUs => "RequestForUs"
  | requestForOther => "RequestForOther"
  | requestInvalid fault => s!"RequestInvalid({fault.label})"

end Outcome

/-- An outcome, with the bytes of the frame it is about. -/
structure Report where
  outcome : Outcome
  frame : List UInt8
  deriving DecidableEq, Repr

end Link

/-- A world with an application that listens to a link. -/
class Listener (World : Type) where
  /-- Takes a report. -/
  report : Link.Report → StateM World Unit

/-- A world with an application that puts reports aside and works through them later. -/
class Inbox (World : Type) extends Listener World where
  /-- Takes all reports that were put aside, the earliest first. -/
  collect : StateM World (List Link.Report)

end BusNode
