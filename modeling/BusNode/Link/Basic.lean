/-
This file defines a link, the part of a node that frames the bytes on its line. A link is a value:
its settings, the frame that is coming in, the frame that went out last, the two times it waits on,
and its counters. The clock, the line, the journal and the listening application are the world in
which it works.

A link waits for a reply while `waitingSince` holds the time at which the request went out. The
request itself stays in `outbound`, against which the reply is held.
-/
import BusNode.Frame.Buffer
import BusNode.Journal
import BusNode.Link.Stats
import BusNode.Reply

namespace BusNode

/-- A link over a half-duplex line. -/
structure Link where
  config : Link.Config
  /-- The bytes that came in since the last frame ended. -/
  inbound : Frame := .empty
  /-- The frame that was sent last, by a master or a slave, with its checksum. -/
  outbound : Frame := .empty
  /-- When the outstanding request went out, in milliseconds. -/
  waitingSince : Option UInt32 := none
  /-- When the last byte came in, in microseconds. -/
  lastByteAt : Option UInt32 := none
  stats : Link.Stats := {}

namespace Link

/-- Whether a reply is awaited. -/
def isBusy (link : Link) : Bool := link.waitingSince.isSome

/-- Gives the node another id. Frames that are classified from now on are held against it. -/
def setSlaveId (id : UInt8) (link : Link) : Except Error Link :=
  match Config.checkSlaveId id with
  | .error error => .error error
  | .ok () => .ok { link with config := { link.config with slaveId := id } }

/-- Says whether frames are noted in the journal. -/
def setPacketLogging (enabled : Bool) (link : Link) : Link :=
  { link with config := { link.config with packetLogging := enabled } }

/-- Sets up a link, unless a setting is out of range. -/
def start {World : Type} [Journal World] (config : Config) : StateM World (Except Error Link) := do
  match config.check with
  | .error error => return .error error
  | .ok () =>
    Journal.note (.linkStarted config)
    return .ok { config }

end Link

end BusNode
