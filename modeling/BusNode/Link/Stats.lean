/-
This file counts what a link has done. Each counter has thirty-two bits and wraps.
-/
import BusNode.Link.Outcome

namespace BusNode.Link

/-- Counts of what a link has done. -/
structure Stats where
  framesSent : UInt32 := 0
  framesReceived : UInt32 := 0
  repliesAccepted : UInt32 := 0
  repliesTimedOut : UInt32 := 0
  repliesRefused : UInt32 := 0
  requestsForUs : UInt32 := 0
  requestsForOther : UInt32 := 0
  requestsInvalid : UInt32 := 0
  /-- Received frames that were longer than the buffer. -/
  overflows : UInt32 := 0
  /-- Sends and reads that the line failed. -/
  lineErrors : UInt32 := 0
  deriving DecidableEq, Repr, Inhabited

namespace Stats

/-- Counts an outcome. -/
def count (outcome : Outcome) (stats : Stats) : Stats :=
  match outcome with
  | .replyAccepted => { stats with repliesAccepted := stats.repliesAccepted + 1 }
  | .replyTimedOut => { stats with repliesTimedOut := stats.repliesTimedOut + 1 }
  | .replyRefused _ => { stats with repliesRefused := stats.repliesRefused + 1 }
  | .requestForUs => { stats with requestsForUs := stats.requestsForUs + 1 }
  | .requestForOther => { stats with requestsForOther := stats.requestsForOther + 1 }
  | .requestInvalid _ => { stats with requestsInvalid := stats.requestsInvalid + 1 }

/-- Counts a received frame, and whether it was longer than the buffer. -/
def countFrame (overflow : Bool) (stats : Stats) : Stats :=
  { stats with
    framesReceived := stats.framesReceived + 1
    overflows := if overflow then stats.overflows + 1 else stats.overflows }

/-- Counts a frame that was sent. -/
def countSent (stats : Stats) : Stats := { stats with framesSent := stats.framesSent + 1 }

/-- Counts a send or a read that the line failed. -/
def countLineError (stats : Stats) : Stats := { stats with lineErrors := stats.lineErrors + 1 }

/-- All counters, in the order of the fields. -/
def toList (stats : Stats) : List UInt32 :=
  [stats.framesSent, stats.framesReceived, stats.repliesAccepted, stats.repliesTimedOut,
   stats.repliesRefused, stats.requestsForUs, stats.requestsForOther, stats.requestsInvalid,
   stats.overflows, stats.lineErrors]

end Stats

end BusNode.Link
