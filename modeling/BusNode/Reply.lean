/-
This file holds a reply against the request it answers. Replies exist for two kinds of request only.
A slave that wrote a register sends the request back unchanged, and a slave that read registers
sends their count in bytes and then their contents. To any other request no reply is awaited.

Replies are whole frames here. A request is judged by the bytes that are given, so the caller says
whether its checksum is among them.
-/
import BusNode.Adu
import BusNode.Error
import BusNode.Request.FunctionCode

namespace BusNode.Reply

/-- Bytes of a reply to a read that are not register contents: slave id, function code, byte count
and checksum. -/
def readOverhead : Nat := 5

/-- Bytes of a reply to a write. -/
def writeLength : Nat := 8

/-- How many registers a request asks for, if it is long enough to say. -/
def registerCount? (request : List UInt8) : Option Nat :=
  match request[4]?, request[5]? with
  | some high, some low => some (Word.ofBytes high low).toNat
  | _, _ => none

/-- The length of the reply that a request asks for, and zero if no reply is awaited. -/
def expectedLength (request : List UInt8) : Nat :=
  match Adu.functionCode? request with
  | none => 0
  | some code =>
    if code = FunctionCode.writeSingle then writeLength
    else if code = FunctionCode.readHolding then
      match registerCount? request with
      | some count => readOverhead + 2 * count
      | none => 0
    else 0

/-- A length as one byte. Longer ones are given as 255. -/
def lengthByte (length : Nat) : UInt8 := UInt8.ofNat (min length 255)

/-- Whether a reply of the right length, slave and function carries what its request asks for. -/
def payloadMatches (request reply : List UInt8) : Bool :=
  if Adu.functionCode? request = some FunctionCode.writeSingle then reply == request
  else reply[2]?.map UInt8.toNat == some (expectedLength request - readOverhead)

/-- The checks that make a reply the answer to its request, in their order: whether there is a rule
at all, the length, the basic checks on a frame, the slave, the function and the contents. -/
def check (request reply : List UInt8) : Except ReplyFault Unit :=
  let code := (Adu.functionCode? request).getD 0
  let expected := expectedLength request
  if code ≠ FunctionCode.writeSingle ∧ code ≠ FunctionCode.readHolding then
    .error (.unverifiable code)
  else if reply.length ≠ expected then
    .error (.wrongLength (lengthByte expected) (lengthByte reply.length))
  else
    match Adu.check reply with
    | .error fault => .error (.frame fault)
    | .ok () =>
      if Adu.slaveId? reply ≠ Adu.slaveId? request then .error .wrongSlave
      else if Adu.functionCode? reply ≠ some code then .error .wrongFunction
      else if payloadMatches request reply then .ok ()
      else .error .wrongPayload

/-- Refuses a request whose reply could not be received, because it would be longer than any frame,
or would carry nothing. -/
def checkFits (request : List UInt8) : Except Error Unit :=
  let expected := expectedLength request
  if Adu.maxLength < expected then .error (.data (.replyTooLong expected))
  else if Adu.functionCode? request = some FunctionCode.readHolding ∧ expected = readOverhead then
    .error (.data .emptyRead)
  else .ok ()

end BusNode.Reply
