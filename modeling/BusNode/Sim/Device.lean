/-
This file defines a serial device and a pin for rehearsals. The device takes no more than a portion
of bytes at a time. Both may be told to fail.
-/
import BusNode.Line.Serial

namespace BusNode.Sim

/-! ### A device -/

/-- Which calls of a device are to fail, and how. -/
structure DeviceFaults where
  write : Option SerialFault := none
  flush : Option SerialFault := none
  ready : Option SerialFault := none
  read : Option SerialFault := none
  /-- How writes are to fail after the next one that does not. -/
  afterWrite : Option SerialFault := none
  deriving DecidableEq, Repr

/-- A serial device for rehearsals. -/
structure Device where
  /-- How many bytes a write takes, at most, besides the first. -/
  extra : Nat
  faults : DeviceFaults := {}
  /-- The bytes that were taken. -/
  wire : List UInt8 := []
  /-- How often the device was flushed. -/
  flushes : Nat := 0
  /-- Bytes that can be read. -/
  incoming : List UInt8 := []
  /-- Whether the device claims to have bytes even when it has none. -/
  alwaysReady : Bool := false
  deriving DecidableEq, Repr

namespace Device

/-- Puts bytes in that can be read after all others. -/
def inject (bytes : List UInt8) (device : Device) : Device :=
  { device with incoming := device.incoming ++ bytes }

instance : SerialDevice Device where
  write first rest := fun device =>
    match device.faults.write with
    | some fault => (.error fault, device)
    | none =>
      let taken := rest.take device.extra
      (.ok taken.length, { device with
        wire := device.wire ++ first :: taken
        faults := { device.faults with write := device.faults.afterWrite } })
  flush := fun device =>
    match device.faults.flush with
    | some fault => (.error fault, device)
    | none => (.ok (), { device with flushes := device.flushes + 1 })
  ready := fun device =>
    match device.faults.ready with
    | some fault => (.error fault, device)
    | none => (.ok (device.alwaysReady || !device.incoming.isEmpty), device)
  read := fun device =>
    match device.faults.read, device.incoming with
    | some fault, _ => (.error fault, device)
    | none, [] => (.ok none, device)
    | none, byte :: rest => (.ok (some byte), { device with incoming := rest })

end Device

/-! ### A pin -/

/-- An output pin for rehearsals. -/
structure Pin where
  /-- The level the pin was driven to last, if ever. -/
  level : Option Bool := none
  failsHigh : Bool := false
  failsLow : Bool := false
  deriving DecidableEq, Repr

instance : OutputPin Pin where
  drive level := fun pin =>
    if (if level then pin.failsHigh else pin.failsLow) then (false, pin)
    else (true, { pin with level := some level })

end BusNode.Sim
