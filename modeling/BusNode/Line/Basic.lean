/-
This file says what a link needs of the line: a half-duplex line with a transmitter that is switched
on for sending and off again, writes that take every byte or fail, and a read that takes at most one
byte and never waits. Each operation may fail, and may change the world whether it fails or not.
-/
import BusNode.Error

namespace BusNode

/-- A world with a half-duplex serial line. -/
class Line (World : Type) where
  /-- Switches the transmitter on or off. -/
  drive : Bool → StateM World (Except Error Unit)
  /-- Writes every byte. -/
  write : List UInt8 → StateM World (Except Error Unit)
  /-- Waits until every byte that was written has left. -/
  flush : StateM World (Except Error Unit)
  /-- Takes a received byte, if one is there. -/
  read : StateM World (Except Error (Option UInt8))

end BusNode
