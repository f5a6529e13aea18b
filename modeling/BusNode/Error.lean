/-
This file lists the causes for which an operation of the library is refused, and gives the wording
of each in one place. There are four families: the line failed, a setting is out of range, input
data is malformed, and a buffer of fixed size is full.

A line belongs to whoever supplies it, and so may fail for reasons this library does not know. Each
family of causes has a member for a reason in the supplier's own words.
-/
import BusNode.Hex

namespace BusNode

/-! ### The line -/

/-- The kinds of failure that a serial device may report. -/
inductive SerialFault where
  | other
  | notFound
  | permissionDenied
  | connectionRefused
  | connectionReset
  | connectionAborted
  | notConnected
  | addressInUse
  | addressNotAvailable
  | brokenPipe
  | alreadyExists
  | invalidInput
  | invalidData
  | timedOut
  | interrupted
  | unsupported
  | outOfMemory
  | writeZero
  deriving DecidableEq, Repr

/-- Every kind of serial failure. -/
def SerialFault.all : List SerialFault :=
  [other, notFound, permissionDenied, connectionRefused, connectionReset, connectionAborted,
   notConnected, addressInUse, addressNotAvailable, brokenPipe, alreadyExists, invalidInput,
   invalidData, timedOut, interrupted, unsupported, outOfMemory, writeZero]

/-- The name of a kind of serial failure. -/
def SerialFault.label : SerialFault → String
  | other => "Other"
  | notFound => "NotFound"
  | permissionDenied => "PermissionDenied"
  | connectionRefused => "ConnectionRefused"
  | connectionReset => "ConnectionReset"
  | connectionAborted => "ConnectionAborted"
  | notConnected => "NotConnected"
  | addressInUse => "AddrInUse"
  | addressNotAvailable => "AddrNotAvailable"
  | brokenPipe => "BrokenPipe"
  | alreadyExists => "AlreadyExists"
  | invalidInput => "InvalidInput"
  | invalidData => "InvalidData"
  | timedOut => "TimedOut"
  | interrupted => "Interrupted"
  | unsupported => "Unsupported"
  | outOfMemory => "OutOfMemory"
  | writeZero => "WriteZero"

/-- Why the line did not do what it was asked. -/
inductive LineFault where
  /-- The serial device failed. -/
  | serial (fault : SerialFault)
  /-- The transmit-enable pin could not be driven. A pin gives no reason. -/
  | enablePin
  /-- The simulated line was told to refuse writes. -/
  | refusedWrite
  /-- Bytes were written while the transmitter was off. -/
  | transmitterOff
  /-- A reason in the words of the line. -/
  | other (reason : String)
  deriving DecidableEq, Repr

/-- A fault of the line in words. -/
def LineFault.message : LineFault → String
  | serial fault => s!"serial: {fault.label}"
  | enablePin => "transmit enable: Other"
  | refusedWrite => "simulated write failure"
  | transmitterOff => "write with transmit disabled"
  | other reason => reason

/-! ### Settings -/

/-- Which setting is out of range. -/
inductive SettingFault where
  | zeroBaudRate
  | zeroReplyTimeout
  /-- A slave id above the highest one that can be assigned. -/
  | slaveId (id : UInt8)
  /-- A tick rate that the timers cannot be served at. -/
  | tickRate (rate : UInt32)
  /-- A reason in the words of the application. -/
  | other (reason : String)
  deriving DecidableEq, Repr

/-- A faulty setting in words. -/
def SettingFault.message : SettingFault → String
  | zeroBaudRate => "baud rate must be non-zero"
  | zeroReplyTimeout => "response timeout must be non-zero"
  | slaveId id => s!"slave id {id} out of range 0..=247"
  | tickRate rate => s!"tick rate {rate} Hz out of range 1..=1000"
  | other reason => reason

/-! ### Data -/

/-- What is wrong with input data. -/
inductive DataFault where
  /-- Hexadecimal text could not be read. -/
  | hex (fault : Hex.Fault)
  /-- A number that stands for no relay command. -/
  | relayCommand (number : UInt8)
  /-- A count of registers that no single reply can carry. -/
  | registerCount (count : UInt16)
  /-- A request whose reply would be longer than any frame. -/
  | replyTooLong (length : Nat)
  /-- A request to read nothing. -/
  | emptyRead
  /-- A reason in the words of the application. -/
  | other (reason : String)
  deriving DecidableEq, Repr

/-- Faulty data in words. -/
def DataFault.message : DataFault → String
  | hex .oddDigits => "odd number of hex digits"
  | hex (.badPair high low) => s!"invalid hex digit in {high}{low}"
  | relayCommand number => s!"unknown relay command {number}"
  | registerCount count => s!"register count {count} outside 1..=17"
  | replyTooLong length => s!"response of {length} bytes exceeds frame size 40"
  | emptyRead => "read of zero registers"
  | other reason => reason

/-! ### Errors -/

/-- Why an operation was refused. -/
inductive Error where
  | line (fault : LineFault)
  | setting (fault : SettingFault)
  | data (fault : DataFault)
  /-- A buffer of the given capacity is full. -/
  | bufferFull (capacity : Nat)
  deriving DecidableEq, Repr

/-- An error in words. -/
def Error.message : Error → String
  | line fault => s!"Transport error: {fault.message}"
  | setting fault => s!"Configuration error: {fault.message}"
  | data fault => s!"Invalid data: {fault.message}"
  | bufferFull capacity => s!"Buffer full: capacity {capacity} bytes"

end BusNode
