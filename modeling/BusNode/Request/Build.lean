/-
This file puts requests together. A request is built as a frame without its checksum; the link adds
the checksum when it sends. Parts may be added in any number, and only at the end is it asked
whether they all fitted.
-/
import BusNode.Frame.Buffer
import BusNode.Request.FunctionCode
import BusNode.Request.Relay

namespace BusNode.Request

/-- The most registers that one reply can carry. -/
def maxRegisters : UInt16 := 17

/-- One part of a frame that is being built. -/
inductive Part where
  | byte (value : UInt8)
  /-- A word, its high byte first. -/
  | word (value : UInt16)
  | bytes (values : List UInt8)
  deriving DecidableEq, Repr

/-- The bytes of a part as they travel. -/
def Part.encode : Part → List UInt8
  | byte value => [value]
  | word value => Word.bigEndian value
  | bytes values => values

/-- Writes parts one after another into an empty frame. -/
def assemble (parts : List Part) : Frame :=
  parts.foldl (fun frame part => frame.write part.encode) .empty

/-- The frame made of the given parts, if they all fit. -/
def build (parts : List Part) : Except Error Frame :=
  if (assemble parts).overflow then .error (.bufferFull Adu.maxLength)
  else .ok (assemble parts)

/-- A request to write one holding register. -/
def writeSingle (slaveId : UInt8) (address value : UInt16) : Except Error Frame :=
  build [.byte slaveId, .byte FunctionCode.writeSingle, .word address, .word value]

/-- A request to read holding registers, at least one and no more than one reply can carry. -/
def readHolding (slaveId : UInt8) (address count : UInt16) : Except Error Frame :=
  if count = 0 ∨ maxRegisters < count then .error (.data (.registerCount count))
  else build [.byte slaveId, .byte FunctionCode.readHolding, .word address, .word count]

/-- A command to one relay of a board. Relays are numbered from one, and the number is the register
that is written. -/
def relay (slaveId relay : UInt8) (command : RelayCommand) (seconds : UInt8) :
    Except Error Frame :=
  writeSingle slaveId relay.toUInt16 (command.registerValue seconds)

/-- A request to write a register always fits into a frame. -/
theorem writeSingle_eq_ok (slaveId : UInt8) (address value : UInt16) :
    ∃ frame, writeSingle slaveId address value = .ok frame ∧
      frame.bytes = [slaveId, FunctionCode.writeSingle] ++ Word.bigEndian address ++
        Word.bigEndian value :=
  ⟨_, rfl, rfl⟩

end BusNode.Request
