/-
This file describes the unit that travels on the bus, the application data unit: a slave id, a
function code, a payload, and a checksum of everything before it. Here such a unit is its bytes. The
file gives the limits that nodes of this library keep to and the checks that every received frame
has to pass, whoever it is for.

Nodes exchange small requests only, so the longest frame is far shorter than the protocol allows.
-/
import BusNode.Checksum
import BusNode.Fault

namespace BusNode.Adu

/-! ### Limits -/

/-- The most bytes that a frame may have, its checksum included. -/
def maxLength : Nat := 40

/-- The fewest bytes that a valid frame has: a slave id, a function code, one byte of payload and
the checksum. -/
def minLength : Nat := 5

/-- The highest id that a slave may have. -/
def maxSlaveId : UInt8 := 247

/-- The id of a node that has not been given one. No valid frame carries it, so such a node never
answers. -/
def unassignedSlaveId : UInt8 := 0

/-- Whether a slave may have this id. -/
def isSlaveId (id : UInt8) : Bool := 1 ≤ id && id ≤ maxSlaveId

/-! ### Fields -/

/-- The slave that a frame is for, or comes from. -/
def slaveId? (frame : List UInt8) : Option UInt8 := frame[0]?

/-- What a frame asks for, or answers. -/
def functionCode? (frame : List UInt8) : Option UInt8 := frame[1]?

/-! ### Checks -/

/-- The basic checks on a received frame. Length comes first, then the slave id, then the
checksum. -/
def check (frame : List UInt8) : Except FrameFault Unit :=
  if frame.length < minLength then .error .tooShort
  else if (slaveId? frame).all isSlaveId then
    if Checksum.holds frame then .ok () else .error .badChecksum
  else .error .badSlaveId

/-- A frame passes the basic checks exactly if each of them finds nothing. -/
theorem check_eq_ok_iff {frame : List UInt8} :
    check frame = .ok () ↔
      minLength ≤ frame.length ∧ (slaveId? frame).all isSlaveId = true ∧
        Checksum.holds frame = true := by
  unfold check
  by_cases short : frame.length < minLength
  · simp [short, Nat.not_le.mpr short]
  · cases slave : (slaveId? frame).all isSlaveId <;> cases sealed : Checksum.holds frame <;>
      simp [short, Nat.not_lt.mp short]

end BusNode.Adu
