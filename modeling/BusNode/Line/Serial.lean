/-
This file makes a line out of two devices that boards commonly have: a serial device and an output
pin that switches the transmitter. The devices are known by what they do, not by what they are.

A serial device takes bytes to send in portions of its own choosing, at least one byte at a time.
The line hands it what is left until everything is taken.
-/
import BusNode.Line.Basic

namespace BusNode

/-! ### Devices -/

/-- A kind of serial device. -/
class SerialDevice (Device : Type) where
  /-- Takes the first byte, and perhaps some of those after it. The answer is how many of those. -/
  write : UInt8 → List UInt8 → StateM Device (Except SerialFault Nat)
  /-- Waits until every byte that was taken has left. -/
  flush : StateM Device (Except SerialFault Unit)
  /-- Whether a read would find a byte. -/
  ready : StateM Device (Except SerialFault Bool)
  /-- Takes a received byte. There may be none even if the device was ready. -/
  read : StateM Device (Except SerialFault (Option UInt8))

/-- A kind of output pin. -/
class OutputPin (Pin : Type) where
  /-- Drives the pin high or low, and says whether that was possible. -/
  drive : Bool → StateM Pin Bool

/-- Hands bytes to a device until all are taken. -/
def SerialDevice.writeAll {Device : Type} [SerialDevice Device] :
    List UInt8 → StateM Device (Except SerialFault Unit)
  | [] => return .ok ()
  | first :: rest => do
    match ← SerialDevice.write first rest with
    | .error fault => return .error fault
    | .ok more => writeAll (rest.drop more)
termination_by bytes => bytes.length
decreasing_by
  simp only [List.length_drop, List.length_cons]
  omega

/-- Takes a received byte if the device says that there is one. -/
def SerialDevice.poll {Device : Type} [SerialDevice Device] :
    StateM Device (Except SerialFault (Option UInt8)) := do
  match ← SerialDevice.ready with
  | .error fault => return .error fault
  | .ok false => return .ok none
  | .ok true => SerialDevice.read

/-! ### The line -/

/-- A serial device with the pin that switches its transmitter. -/
structure SerialLine (Device Pin : Type) where
  device : Device
  enable : Pin

namespace SerialLine

variable {Device Pin : Type}

/-- Lets the device act, and reports its faults as faults of the line. -/
def onDevice {α : Type} (action : StateM Device (Except SerialFault α)) :
    StateM (SerialLine Device Pin) (Except Error α) := fun line =>
  let (answer, device) := action line.device
  (answer.mapError fun fault => .line (.serial fault), { line with device })

/-- Drives the pin. -/
def onPin [OutputPin Pin] (level : Bool) :
    StateM (SerialLine Device Pin) (Except Error Unit) := fun line =>
  let (driven, enable) := OutputPin.drive level line.enable
  (if driven then .ok () else .error (.line .enablePin), { line with enable })

instance [SerialDevice Device] [OutputPin Pin] : Line (SerialLine Device Pin) where
  drive := onPin
  write bytes := onDevice (SerialDevice.writeAll bytes)
  flush := onDevice SerialDevice.flush
  read := onDevice SerialDevice.poll

end SerialLine

end BusNode
