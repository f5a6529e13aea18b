/-
This file holds the settings of a link and the times that follow from them. A character on the line
takes ten bits, and a frame ends after one and a half characters of silence, but never after less
than 750 microseconds.
-/
import BusNode.Adu
import BusNode.Error

namespace BusNode.Link

/-- The settings of a link. -/
structure Config where
  /-- Bits a second on the line. -/
  baudRate : UInt32 := 19200
  /-- How long a request waits for its reply, in milliseconds. -/
  replyTimeout : UInt32 := 100
  /-- The id under which this node answers. -/
  slaveId : UInt8 := Adu.unassignedSlaveId
  /-- Whether every frame that is sent or received is noted in the journal. -/
  packetLogging : Bool := false
  deriving DecidableEq, Repr, Inhabited

namespace Config

/-- The shortest silence that ends a frame, in microseconds. -/
def shortestSilence : UInt32 := 750

/-- The time that one character takes on the line, in microseconds. -/
def charTime (config : Config) : UInt32 := 10000000 / max config.baudRate 1

/-- The silence that ends a frame, in microseconds. -/
def interByteTimeout (config : Config) : UInt32 :=
  max (config.charTime * 15 / 10) shortestSilence

/-- Refuses an id that no slave may have, other than the one for no id at all. -/
def checkSlaveId (id : UInt8) : Except Error Unit :=
  if Adu.maxSlaveId < id then .error (.setting (.slaveId id)) else .ok ()

/-- Refuses settings that are out of range. The first one that is counts: the baud rate, then the
time for a reply, then the slave id. -/
def check (config : Config) : Except Error Unit :=
  if config.baudRate = 0 then .error (.setting .zeroBaudRate)
  else if config.replyTimeout = 0 then .error (.setting .zeroReplyTimeout)
  else checkSlaveId config.slaveId

end Config

end BusNode.Link
