/-
This file says what the library calls itself.
-/

namespace BusNode.About

/-- The version of the library. -/
def version : String := "0.3.0"

/-- The library in one line. -/
def info : String := s!"RS-485 Node Core v{version} - Modbus RTU link and event runtime"

end BusNode.About
