/-
This file says what a node needs of time: two free-running counters of thirty-two bits, one in
microseconds and one in milliseconds. Both wrap. Times are compared by their difference in wrapping
arithmetic, so a wrap between two readings does no harm as long as the time between them fits.

A clock is part of a world, and reading it may change the world: a simulated clock may move with
each reading.
-/

namespace BusNode

/-- A world in which time can be read. -/
class Clock (World : Type) where
  /-- Reads the microsecond counter. -/
  micros : StateM World UInt32
  /-- Reads the millisecond counter. -/
  millis : StateM World UInt32

namespace Clock

/-- Whether more than the given time has passed since a reading. -/
def elapsed (now start limit : UInt32) : Bool := limit < now - start

end Clock

end BusNode
