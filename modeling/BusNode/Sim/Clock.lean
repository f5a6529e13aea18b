/-
This file defines a clock that a rehearsal drives by hand. It counts true time in microseconds, with
sixty-four bits, and shows the low thirty-two bits of the microseconds or of the milliseconds. It
may be told to move with every reading, so that waiting for time to pass always ends.
-/
import BusNode.Clock

namespace BusNode.Sim

/-- A clock that is driven by hand. -/
structure HandClock where
  /-- True time in microseconds. -/
  now : UInt64 := 0
  /-- How far every reading moves the clock, in microseconds. -/
  step : UInt32 := 0
  deriving DecidableEq, Repr, Inhabited

namespace HandClock

/-- Moves the clock on by microseconds. -/
def advance (time : UInt64) (clock : HandClock) : HandClock :=
  { clock with now := clock.now + time }

/-- Moves the clock on by milliseconds. -/
def advanceMs (time : UInt64) (clock : HandClock) : HandClock := clock.advance (time * 1000)

/-- Reads true time. The clock moves only afterwards. -/
def read : StateM HandClock UInt64 := fun clock =>
  (clock.now, clock.advance clock.step.toUInt64)

instance : Clock HandClock where
  micros := do
    let time ← read
    return time.toUInt32
  millis := do
    let time ← read
    return (time / 1000).toUInt32

end HandClock

end BusNode.Sim
