/-
This file lists the commands of the common relay boards. A board takes a command as the value of a
register: the command in the high byte, and a delay in seconds in the low byte.
-/
import BusNode.Error
import BusNode.Word

namespace BusNode

/-- What a relay may be told to do. -/
inductive RelayCommand where
  | closeContact
  | openContact
  | toggle
  | latch
  | momentary
  | delay
  deriving DecidableEq, Repr

namespace RelayCommand

/-- The number of a command on the bus. -/
def number : RelayCommand → UInt8
  | closeContact => 1
  | openContact => 2
  | toggle => 3
  | latch => 4
  | momentary => 5
  | delay => 6

/-- The name of a command. -/
def label : RelayCommand → String
  | closeContact => "Close"
  | openContact => "Open"
  | toggle => "Toggle"
  | latch => "Latch"
  | momentary => "Momentary"
  | delay => "Delay"

/-- The command that a number stands for. -/
def ofNumber (number : UInt8) : Except Error RelayCommand :=
  match number with
  | 1 => .ok closeContact
  | 2 => .ok openContact
  | 3 => .ok toggle
  | 4 => .ok latch
  | 5 => .ok momentary
  | 6 => .ok delay
  | other => .error (.data (.relayCommand other))

/-- The register value that carries a command and a delay. -/
def registerValue (seconds : UInt8) (command : RelayCommand) : UInt16 :=
  Word.ofBytes command.number seconds

/-- Every command is read back from its number. -/
@[simp] theorem ofNumber_number (command : RelayCommand) :
    ofNumber command.number = .ok command := by
  cases command <;> rfl

end RelayCommand

end BusNode
