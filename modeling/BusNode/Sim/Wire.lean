/-
This file defines a line for rehearsals. It keeps what was sent, frame by frame, and plays back
bytes that were put in. Whoever is at the other end is a responder, which may answer every frame
that has left.
-/
import BusNode.Line.Basic

namespace BusNode.Sim

/-! ### Responders -/

/-- Who is at the other end of the line. -/
inductive Responder where
  /-- Nobody answers. -/
  | silent
  /-- The frame comes back. -/
  | echo
  /-- The frame comes back, and the byte at an index has bits flipped. -/
  | flip (index : Nat) (bits : UInt8)
  /-- Answers were written down, one for each frame. Where one is missing nobody answers. -/
  | replies (answers : List (Option (List UInt8)))
  deriving DecidableEq, Repr

/-- What is answered to a frame, and who answers the next one. -/
def Responder.answer (frame : List UInt8) : Responder → Option (List UInt8) × Responder
  | silent => (none, silent)
  | echo => (some frame, echo)
  | flip index bits => (some (frame.modify index (· ^^^ bits)), flip index bits)
  | replies [] => (none, replies [])
  | replies (first :: rest) => (first, replies rest)

/-! ### The line -/

/-- A line for rehearsals. -/
structure Wire where
  /-- Bytes that can be read. -/
  incoming : List UInt8 := []
  /-- Bytes that were written and have not left. -/
  pending : List UInt8 := []
  /-- Frames that have left, the earliest first. -/
  sent : List (List UInt8) := []
  transmitting : Bool := false
  /-- Whether every write is to fail. -/
  refusing : Bool := false
  responder : Responder := .silent
  deriving DecidableEq, Repr

namespace Wire

/-- Puts bytes in that can be read after all others. -/
def inject (bytes : List UInt8) (wire : Wire) : Wire :=
  { wire with incoming := wire.incoming ++ bytes }

/-- Switches the transmitter. -/
def drive (enabled : Bool) (wire : Wire) : Except Error Unit × Wire :=
  (.ok (), { wire with transmitting := enabled })

/-- Writes bytes, which stay until the line is flushed. -/
def write (bytes : List UInt8) (wire : Wire) : Except Error Unit × Wire :=
  if wire.refusing then (.error (.line .refusedWrite), wire)
  else if wire.transmitting then (.ok (), { wire with pending := wire.pending ++ bytes })
  else (.error (.line .transmitterOff), wire)

/-- Lets all that was written leave as one frame, and takes the answer to it. -/
def flush (wire : Wire) : Except Error Unit × Wire :=
  if wire.pending.isEmpty then (.ok (), wire)
  else
    let (answer, responder) := wire.responder.answer wire.pending
    (.ok (), { wire with
      incoming := wire.incoming ++ answer.getD []
      pending := []
      sent := wire.sent ++ [wire.pending]
      responder })

/-- Takes a byte that can be read. -/
def read (wire : Wire) : Except Error (Option UInt8) × Wire :=
  match wire.incoming with
  | [] => (.ok none, wire)
  | byte :: rest => (.ok (some byte), { wire with incoming := rest })

instance : Line Wire where
  drive := drive
  write := write
  flush := flush
  read := read

end Wire

end BusNode.Sim
