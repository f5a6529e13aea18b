/-
This file defines how a link sends. A frame goes out as it is, or as the reply of a slave, or as the
request of a master. Replies and requests get their checksum here, and wait until no reply is
awaited any more; a request that asks for a reply begins a new wait.

Waiting means running steps of the link. Whether that ever ends depends on the clock and the line,
so a caller says how many steps it is ready to wait, and a send that is still waiting after that
many says so and has sent nothing.
-/
import BusNode.Link.Service
import BusNode.Request.Build

namespace BusNode.Link

/-- How a send that may have to wait came out. -/
inductive SendResult where
  /-- The frame went out. -/
  | sent
  /-- The frame was refused, or the line failed. -/
  | refused (error : Error)
  /-- A reply was still awaited when the caller's patience ran out. -/
  | waiting
  deriving DecidableEq, Repr

section Send

variable {World : Type} [Clock World] [Line World] [Journal World] [Listener World]

/-! ### Sending a frame as it is -/

/-- Switches the transmitter on, writes, and waits for the last byte to leave. What follows a
failure is left out. -/
def writeFrame (bytes : List UInt8) : StateM World (Except Error Unit) := do
  match ← Line.drive true with
  | .error error => return .error error
  | .ok () =>
    match ← Line.write bytes with
    | .error error => return .error error
    | .ok () => Line.flush

/-- Writes a frame and switches the transmitter off, whether or not the frame could be written. The
first failure counts. -/
def occupyLine (bytes : List UInt8) : StateM World (Except Error Unit) := do
  let written ← writeFrame bytes
  let released ← Line.drive false
  match written with
  | .error error => return .error error
  | .ok () => return released

/-- Sends bytes as they are: without checksum, without waiting, and without awaiting a reply. -/
def transmit (bytes : List UInt8) (link : Link) : StateM World (Except Error Unit × Link) := do
  match ← occupyLine bytes with
  | .error error =>
    Journal.note (.transmitFailed error)
    return (.error error, { link with stats := link.stats.countLineError })
  | .ok () =>
    Journal.noteIf link.config.packetLogging (.packet "send" (Adu.slaveId? bytes) bytes)
    return (.ok (), { link with stats := link.stats.countSent })

/-! ### Waiting -/

/-- Runs steps until no reply is awaited, but no more than the given number. -/
def pump : Nat → Link → StateM World Link
  | 0, link => return link
  | patience + 1, link => do
    if link.isBusy then
      let link ← link.service
      pump patience link
    else return link

/-! ### Replies and requests -/

/-- A buffer with a frame and its checksum, and whether there was room for both. Behind a frame that
was cut no checksum is added. -/
def pack (frame : List UInt8) : Bool × Frame :=
  let (stored, bare) := (FrameBuffer.empty : Frame).extend frame
  if stored then bare.appendChecksum else (false, bare)

/-- Puts a frame and its checksum into the outbound buffer. The frame may be too long for it, and
then the buffer is left with what fitted. -/
def load (frame : List UInt8) (link : Link) : Except Error Unit × Link :=
  let (stored, outbound) := pack frame
  (if stored then .ok () else .error (.bufferFull Adu.maxLength), { link with outbound })

/-- Waits until no reply is awaited, adds the checksum, and sends. -/
def deliver (patience : Nat) (frame : List UInt8) (link : Link) :
    StateM World (SendResult × Link) := do
  let link ← link.pump patience
  if link.isBusy then return (.waiting, link)
  else
    match link.load frame with
    | (.error error, link) => return (.refused error, link)
    | (.ok (), link) =>
      match ← link.transmit link.outbound.bytes with
      | (.error error, link) => return (.refused error, link)
      | (.ok (), link) => return (.sent, link)

/-- Sends the reply of a slave. -/
def slaveSend (patience : Nat) (frame : List UInt8) (link : Link) :
    StateM World (SendResult × Link) :=
  link.deliver patience frame

/-- Begins to wait for a reply, if the frame that went out asks for one. -/
def arm (link : Link) : StateM World Link := do
  if 0 < Reply.expectedLength link.outbound.bytes then
    let now ← Clock.millis
    Journal.note .waitArmed
    return { link with waitingSince := some now }
  else return link

/-- Sends the request of a master and begins to wait for its reply. A request whose reply could not
be received is refused at once. -/
def masterSend (patience : Nat) (frame : List UInt8) (link : Link) :
    StateM World (SendResult × Link) := do
  match Reply.checkFits frame with
  | .error error => return (.refused error, link)
  | .ok () =>
    match ← link.deliver patience frame with
    | (.sent, link) => return (.sent, ← link.arm)
    | unsent => return unsent

/-! ### Requests by name -/

/-- Sends a request that may have failed to be put together. -/
def request (patience : Nat) (built : Except Error Frame) (link : Link) :
    StateM World (SendResult × Link) := do
  match built with
  | .error error => return (.refused error, link)
  | .ok frame =>
    match frame.functionCode? with
    | some code => Journal.note (.frameBuilt code frame.length)
    | none => pure ()
    link.masterSend patience frame.bytes

/-- Writes one holding register of a slave. -/
def writeRegister (patience : Nat) (slaveId : UInt8) (address value : UInt16) (link : Link) :
    StateM World (SendResult × Link) :=
  link.request patience (Request.writeSingle slaveId address value)

/-- Reads holding registers of a slave. -/
def readRegisters (patience : Nat) (slaveId : UInt8) (address count : UInt16) (link : Link) :
    StateM World (SendResult × Link) :=
  link.request patience (Request.readHolding slaveId address count)

/-- Commands one relay of a board. -/
def commandRelay (patience : Nat) (slaveId relay : UInt8) (command : RelayCommand)
    (seconds : UInt8) (link : Link) : StateM World (SendResult × Link) :=
  link.request patience (Request.relay slaveId relay command seconds)

end Send

end BusNode.Link
