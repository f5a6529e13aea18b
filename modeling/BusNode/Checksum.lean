/-
This file defines the checksum that ends every frame: CRC-16/MODBUS, with the reflected polynomial
`0xA001`, a register that starts with all bits set, and no final inversion. The checksum follows
the bytes it covers, low byte first.

The definition shifts one bit at a time. A byte is mixed into the low half of the register and the
register is then shifted eight times, so the checksum of a frame is a left fold over its bytes.
-/
import BusNode.Word

namespace BusNode.Checksum

/-- Bytes that a checksum takes at the end of a frame. -/
def trailerLength : Nat := 2

/-- One bit of the polynomial division: the register moves down by one place, and the polynomial
is taken off when the bit that leaves is set. -/
def step (register : UInt16) : UInt16 :=
  if register &&& 1 = 1 then (register >>> 1) ^^^ 0xA001 else register >>> 1

/-- Takes one more byte into the register. -/
def absorb (register : UInt16) (byte : UInt8) : UInt16 :=
  Nat.repeat step 8 (register ^^^ byte.toUInt16)

/-- The checksum of a run of bytes. -/
def compute (bytes : List UInt8) : UInt16 := bytes.foldl absorb 0xFFFF

/-- The two bytes that follow the given bytes in a frame. -/
def trailer (bytes : List UInt8) : List UInt8 := Word.littleEndian (compute bytes)

/-- The part of a frame that its checksum covers. -/
def body (frame : List UInt8) : List UInt8 := frame.take (frame.length - trailerLength)

/-- Replaces the last two bytes of a frame by the checksum of the bytes before them. A frame with
no room for a checksum stays as it is. -/
def reseal (frame : List UInt8) : List UInt8 :=
  if frame.length < trailerLength then frame else body frame ++ trailer (body frame)

/-- Whether the last two bytes of a frame are the checksum of the bytes before them. -/
def holds (frame : List UInt8) : Bool :=
  trailerLength ≤ frame.length &&
    frame.drop (frame.length - trailerLength) == trailer (body frame)

/-- Each further byte moves the register once more. -/
@[simp] theorem compute_append (front back : List UInt8) :
    compute (front ++ back) = back.foldl absorb (compute front) :=
  List.foldl_append

@[simp] theorem length_trailer (bytes : List UInt8) : (trailer bytes).length = trailerLength := rfl

/-- What precedes two bytes is the part that they cover. -/
@[simp] theorem body_append_pair (bytes : List UInt8) (first second : UInt8) :
    body (bytes ++ [first, second]) = bytes := by
  simp [body, trailerLength]

end BusNode.Checksum
