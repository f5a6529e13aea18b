/-
This file lists what can be wrong with a received frame, and with a reply that is held against the
request that it answers. Faults are not errors of the program: they travel to the application inside
a link outcome, as a reason code or as text, and the application decides whether to try again.
-/
import BusNode.Hex

namespace BusNode

/-! ### Frames -/

/-- Why a frame fails the basic checks. -/
inductive FrameFault where
  /-- The last two bytes are not the checksum of the rest. -/
  | badChecksum
  /-- More bytes arrived than the receive buffer holds. -/
  | overflow
  /-- There are fewer bytes than the shortest frame has. -/
  | tooShort
  /-- The first byte is no id that a slave may have. -/
  | badSlaveId
  deriving DecidableEq, Repr

namespace FrameFault

/-- The reason code of a fault. -/
def code : FrameFault → UInt8
  | badChecksum => 0
  | overflow => 1
  | tooShort => 2
  | badSlaveId => 3

/-- A fault in words. -/
def message : FrameFault → String
  | badChecksum => "invalid CRC"
  | overflow => "receive buffer overflow"
  | tooShort => "frame too short"
  | badSlaveId => "slave id out of range"

/-- The name under which a fault appears in the journal. -/
def label : FrameFault → String
  | badChecksum => "InvalidCrc"
  | overflow => "Overflow"
  | tooShort => "InvalidLength"
  | badSlaveId => "InvalidSlaveId"

end FrameFault

/-! ### Replies -/

/-- Why a reply is not accepted as the answer to its request. -/
inductive ReplyFault where
  /-- The reply is no valid frame. -/
  | frame (fault : FrameFault)
  /-- The reply names another slave than the request. -/
  | wrongSlave
  /-- The reply carries another function code than the request. -/
  | wrongFunction
  /-- The reply has another length than the request asks for. Lengths above 255 are given
  as 255. -/
  | wrongLength (expected actual : UInt8)
  /-- The reply has the right form and the wrong contents. -/
  | wrongPayload
  /-- There is no rule for replies to this function code. -/
  | unverifiable (function : UInt8)
  deriving DecidableEq, Repr

namespace ReplyFault

/-- The reason code of a fault. Frame faults keep their own codes, which lie below the others. -/
def code : ReplyFault → UInt8
  | frame fault => fault.code
  | wrongSlave => 10
  | wrongFunction => 11
  | wrongLength .. => 12
  | wrongPayload => 13
  | unverifiable _ => 14

/-- A fault in words. -/
def message : ReplyFault → String
  | frame fault => s!"response frame invalid: {fault.message}"
  | wrongSlave => "response from wrong slave"
  | wrongFunction => "response with wrong function code"
  | wrongLength expected actual => s!"response length {actual} != expected {expected}"
  | wrongPayload => "response payload does not match request"
  | unverifiable function =>
    s!"no validation rule for function code 0x{Hex.ofByteLower function}"

/-- The name under which a fault appears in the journal, with its details. -/
def label : ReplyFault → String
  | frame fault => s!"Frame({fault.label})"
  | wrongSlave => "BadSlaveId"
  | wrongFunction => "BadFunctionCode"
  | wrongLength expected actual =>
    s!"LengthMismatch \x7b expected: {expected}, actual: {actual} \x7d"
  | wrongPayload => "PayloadMismatch"
  | unverifiable function => s!"Unverifiable({function})"

end ReplyFault

end BusNode
