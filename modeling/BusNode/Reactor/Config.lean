/-
This file holds the setting of a reactor, the rate at which its timers are served, and the times
that follow from it. Times are given to timers in whole ticks, and a tick is a whole number of
milliseconds.
-/
import BusNode.Error

namespace BusNode.Reactor

/-- The setting of a reactor. -/
structure Config where
  /-- How often a second the timers are served. -/
  tickRate : UInt32 := 10
  deriving DecidableEq, Repr, Inhabited

namespace Config

/-- The highest rate at which timers can be served. -/
def maxTickRate : UInt32 := 1000

/-- The length of a tick in milliseconds. -/
def tickMs (config : Config) : UInt32 := 1000 / max config.tickRate 1

/-- A time in milliseconds as ticks. A timer counts no more ticks than sixteen bits hold. -/
def ticksIn (time : UInt32) (config : Config) : UInt16 :=
  (min (time / max config.tickMs 1) 65535).toUInt16

/-- Refuses a rate at which timers cannot be served. -/
def check (config : Config) : Except Error Unit :=
  if config.tickRate = 0 ∨ maxTickRate < config.tickRate then
    .error (.setting (.tickRate config.tickRate))
  else .ok ()

end Config

end BusNode.Reactor
