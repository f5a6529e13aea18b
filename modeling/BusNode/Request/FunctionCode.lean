/-
This file lists the function codes of the protocol with their names. Two of them, reading holding
registers and writing one register, are the requests whose replies this library can check.
-/

namespace BusNode.FunctionCode

/-- Reads a run of holding registers. -/
def readHolding : UInt8 := 0x03

/-- Writes one holding register. -/
def writeSingle : UInt8 := 0x06

/-- The function codes that have a name. -/
def names : List (UInt8 × String) :=
  [(0x01, "Read Coils"),
   (0x02, "Read Discrete Inputs"),
   (readHolding, "Read Holding Registers"),
   (0x04, "Read Input Registers"),
   (0x05, "Write Single Coil"),
   (writeSingle, "Write Single Register"),
   (0x07, "Read Exception Status"),
   (0x0F, "Write Multiple Coils"),
   (0x10, "Write Multiple Registers"),
   (0x11, "Report Slave ID"),
   (0x16, "Mask Write Register"),
   (0x17, "Read/Write Multiple Registers")]

/-- The name of a function code. The high bit marks a refusal and does not change the name. -/
def describe (code : UInt8) : String :=
  (names.lookup (code &&& 0x7F)).getD "Unknown Function"

end BusNode.FunctionCode
