/-
This file makes any line fail on demand. A call that is to fail gives the reason it was told to give
and does not reach the line, so a transmitter that could not be switched off stays on.
-/
import BusNode.Line.Basic

namespace BusNode.Sim

/-- Which calls are to fail, and with what reason. -/
structure LineFaults where
  driveOn : Option String := none
  driveOff : Option String := none
  write : Option String := none
  flush : Option String := none
  read : Option String := none
  deriving DecidableEq, Repr

/-- A line whose calls may be told to fail. -/
structure Faulty (Inner : Type) where
  faults : LineFaults := {}
  inner : Inner

namespace Faulty

variable {Inner : Type}

/-- Makes a call, unless it is to fail. -/
def guard {α : Type} (reason : LineFaults → Option String)
    (call : StateM Inner (Except Error α)) : StateM (Faulty Inner) (Except Error α) := fun line =>
  match reason line.faults with
  | some reason => (.error (.line (.other reason)), line)
  | none =>
    let (answer, inner) := call line.inner
    (answer, { line with inner })

instance [Line Inner] : Line (Faulty Inner) where
  drive enabled := guard (if enabled then LineFaults.driveOn else LineFaults.driveOff)
    (Line.drive enabled)
  write bytes := guard LineFaults.write (Line.write bytes)
  flush := guard LineFaults.flush Line.flush
  read := guard LineFaults.read Line.read

end Faulty

end BusNode.Sim
