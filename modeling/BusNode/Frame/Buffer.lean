/-
This file defines the buffer in which a frame is put together, byte by byte. It has a fixed capacity
and never grows past it. What does not fit is dropped, and the buffer remembers that something was
dropped until it is emptied.

Every way of writing says whether there was room for all that it had to add. All of them go through
`write`, so two facts hold of every buffer and are part of its type:
it holds no more bytes than its capacity, and one that has dropped a byte is full.
-/
import BusNode.Adu
import BusNode.Error

namespace BusNode

/-- Bytes in a buffer of fixed capacity, and whether any were dropped. -/
structure FrameBuffer (capacity : Nat) where
  bytes : List UInt8 := []
  overflow : Bool := false
  fits : bytes.length ≤ capacity := by simp
  full_of_overflow : overflow = true → bytes.length = capacity := by simp
  deriving DecidableEq

/-- A buffer with room for one frame. -/
abbrev Frame := FrameBuffer Adu.maxLength

namespace FrameBuffer

variable {capacity : Nat}

/-! ### Contents -/

/-- The empty buffer. -/
def empty : FrameBuffer capacity := {}

instance : Inhabited (FrameBuffer capacity) := ⟨empty⟩

/-- How many bytes the buffer holds. -/
def length (buffer : FrameBuffer capacity) : Nat := buffer.bytes.length

/-- How many more bytes the buffer can take. -/
def remaining (buffer : FrameBuffer capacity) : Nat := capacity - buffer.bytes.length

/-- Whether the buffer holds nothing. -/
def isEmpty (buffer : FrameBuffer capacity) : Bool := buffer.bytes.isEmpty

/-- The byte at a place. -/
def byteAt? (index : Nat) (buffer : FrameBuffer capacity) : Option UInt8 := buffer.bytes[index]?

/-- The bytes at a place and at the next, if both are there. -/
def pairAt? (index : Nat) (buffer : FrameBuffer capacity) : Option (UInt8 × UInt8) :=
  match buffer.bytes[index]?, buffer.bytes[index + 1]? with
  | some first, some second => some (first, second)
  | _, _ => none

/-- The word at a place, its high byte first. -/
def bigEndianAt? (index : Nat) (buffer : FrameBuffer capacity) : Option UInt16 :=
  (buffer.pairAt? index).map fun (first, second) => Word.ofBytes first second

/-- The word at a place, its low byte first. -/
def littleEndianAt? (index : Nat) (buffer : FrameBuffer capacity) : Option UInt16 :=
  (buffer.pairAt? index).map fun (first, second) => Word.ofBytes second first

/-- The slave id, if a byte is there. -/
def slaveId? (buffer : FrameBuffer capacity) : Option UInt8 := Adu.slaveId? buffer.bytes

/-- The function code, if a byte is there. -/
def functionCode? (buffer : FrameBuffer capacity) : Option UInt8 :=
  Adu.functionCode? buffer.bytes

/-! ### Writing -/

/-- Whether the buffer has room for all of these bytes. -/
def takes (bytes : List UInt8) (buffer : FrameBuffer capacity) : Bool :=
  bytes.length ≤ buffer.remaining

@[simp] theorem takes_iff {bytes : List UInt8} {buffer : FrameBuffer capacity} :
    buffer.takes bytes = true ↔ bytes.length ≤ buffer.remaining := by
  simp [takes]

/-- Adds as many of the bytes as there is room for. If some were dropped, the buffer remembers
it. -/
def write (bytes : List UInt8) (buffer : FrameBuffer capacity) : FrameBuffer capacity where
  bytes := buffer.bytes ++ bytes.take buffer.remaining
  overflow := buffer.overflow || !buffer.takes bytes
  fits := by
    have fits := buffer.fits
    simp only [List.length_append, List.length_take, remaining]
    omega
  full_of_overflow := by
    intro dropped
    have fits := buffer.fits
    simp only [List.length_append, List.length_take, remaining]
    rcases Bool.or_eq_true_iff.1 dropped with earlier | now
    · have full := buffer.full_of_overflow earlier
      omega
    · have short : ¬ bytes.length ≤ buffer.remaining := fun room => by
        simp [takes_iff.2 room] at now
      simp only [remaining] at short
      omega

/-- Adds as many of the bytes as there is room for, and says whether that was all of them. -/
def extend (bytes : List UInt8) (buffer : FrameBuffer capacity) : Bool × FrameBuffer capacity :=
  (buffer.takes bytes, buffer.write bytes)

/-- Adds one byte, and says whether there was room for it. -/
def append (byte : UInt8) (buffer : FrameBuffer capacity) : Bool × FrameBuffer capacity :=
  buffer.extend [byte]

/-- Adds a word, its high byte first, and says whether all of it was added. -/
def appendBigEndian (value : UInt16) (buffer : FrameBuffer capacity) :
    Bool × FrameBuffer capacity :=
  buffer.extend (Word.bigEndian value)

/-- Adds a word, its low byte first, and says whether all of it was added. -/
def appendLittleEndian (value : UInt16) (buffer : FrameBuffer capacity) :
    Bool × FrameBuffer capacity :=
  buffer.extend (Word.littleEndian value)

/-- The checksum of the contents, as the bytes to write after them. -/
def trailer (buffer : FrameBuffer capacity) : List UInt8 := Checksum.trailer buffer.bytes

/-- Adds the checksum of the contents, and says whether all of it was added. -/
def appendChecksum (buffer : FrameBuffer capacity) : Bool × FrameBuffer capacity :=
  buffer.appendLittleEndian (Checksum.compute buffer.bytes)

/-- The buffer that is left when the checksum of the contents is added to them. -/
def writeChecksum (buffer : FrameBuffer capacity) : FrameBuffer capacity :=
  buffer.appendChecksum.2

/-- Adds the bytes that a hexadecimal text stands for. Bytes before the first fault of the text
are added even when the text is refused. -/
def writeHex (text : String) (buffer : FrameBuffer capacity) :
    Except Error Unit × FrameBuffer capacity :=
  let (bytes, fault) := Hex.read text
  let (stored, buffer) := buffer.extend bytes
  let answer :=
    if stored then
      match fault with
      | none => .ok ()
      | some fault => .error (.data (.hex fault))
    else .error (.bufferFull capacity)
  (answer, buffer)

/-! ### Whole buffers -/

/-- A buffer that holds exactly these bytes. -/
def ofBytes (bytes : List UInt8) : Except Error (FrameBuffer capacity) :=
  let (stored, buffer) := (empty : FrameBuffer capacity).extend bytes
  if stored then .ok buffer else .error (.bufferFull capacity)

/-- A buffer that holds the bytes a hexadecimal text stands for. -/
def ofHex (text : String) : Except Error (FrameBuffer capacity) :=
  let blank : FrameBuffer capacity := .empty
  match blank.writeHex text with
  | (.ok (), buffer) => .ok buffer
  | (.error error, _) => .error error

/-- The basic checks on the buffered frame. A frame that lost bytes is refused for that. -/
def check (buffer : FrameBuffer capacity) : Except FrameFault Unit :=
  if buffer.overflow then .error .overflow else Adu.check buffer.bytes

/-! ### How writing shows -/

@[simp] theorem bytes_empty : (empty : FrameBuffer capacity).bytes = [] := rfl

@[simp] theorem overflow_empty : (empty : FrameBuffer capacity).overflow = false := rfl

@[simp] theorem remaining_empty : (empty : FrameBuffer capacity).remaining = capacity := rfl

/-- Two buffers with the same contents and the same memory of dropped bytes are one. -/
@[ext] theorem ext {left right : FrameBuffer capacity} (bytes : left.bytes = right.bytes)
    (overflow : left.overflow = right.overflow) : left = right := by
  cases left
  cases right
  simp_all

@[simp] theorem bytes_write (bytes : List UInt8) (buffer : FrameBuffer capacity) :
    (buffer.write bytes).bytes = buffer.bytes ++ bytes.take buffer.remaining := rfl

@[simp] theorem overflow_write (bytes : List UInt8) (buffer : FrameBuffer capacity) :
    (buffer.write bytes).overflow = (buffer.overflow || !buffer.takes bytes) := rfl

/-- What there is room for is added whole. -/
theorem bytes_write_of_takes {bytes : List UInt8} {buffer : FrameBuffer capacity}
    (room : buffer.takes bytes = true) : (buffer.write bytes).bytes = buffer.bytes ++ bytes := by
  simp [List.take_of_length_le (takes_iff.1 room)]

/-- Writing in two parts is writing at once. -/
theorem write_append (front back : List UInt8) (buffer : FrameBuffer capacity) :
    buffer.write (front ++ back) = (buffer.write front).write back := by
  have fits := buffer.fits
  ext1
  · simp only [bytes_write, List.take_append, List.append_assoc, remaining, List.length_append,
      List.length_take]
    congr 3
    omega
  · simp only [overflow_write, Bool.or_assoc, ← Bool.not_and]
    congr 2
    rw [Bool.eq_iff_iff]
    simp only [Bool.and_eq_true, takes_iff, remaining, bytes_write, List.length_append,
      List.length_take]
    omega

end FrameBuffer

end BusNode
