/-
This file defines the events that the parts of a node send to one another. An event is an id with
two parameters, one of eight bits and one of sixteen, and packs into a single word of thirty-two.

The first ten ids belong to the library. They drive the state machines, carry the timeouts of
timers, and mark in the trace what happened in between. All others are free for the application.
-/

namespace BusNode

/-- An event: an id and two parameters, whose meaning is up to the id. -/
structure Event where
  id : UInt8
  p8 : UInt8 := 0
  p16 : UInt16 := 0
  deriving DecidableEq, Repr, Inhabited

namespace Event

/-! ### The ids of the library -/

/-- The null event. It is never queued. -/
def nilId : UInt8 := 0

/-- A machine has changed its state. Only traced. -/
def stateChangeId : UInt8 := 1

/-- A machine enters a state. Given to the machine, never queued. -/
def entryId : UInt8 := 2

/-- A machine leaves a state. Given to the machine, never queued. -/
def exitId : UInt8 := 3

/-- A machine sends an event to itself. -/
def selfId : UInt8 := 4

/-- A timer has run out. -/
def timerId : UInt8 := 5

/-- A timer was started. Only traced. -/
def timerArmId : UInt8 := 6

/-- A running timer was stopped. Only traced. -/
def timerStopId : UInt8 := 7

/-- The queue had no room for an event. Only traced. -/
def queueFullId : UInt8 := 8

/-- Free for debugging. -/
def debugId : UInt8 := 9

/-- The first id that an application may use. -/
def firstApplicationId : UInt8 := 10

/-! ### The events of the library -/

/-- Entry to a state. -/
def entry : Event := { id := entryId }

/-- Exit from a state. -/
def exit : Event := { id := exitId }

/-- The event that the machine with the given id sends to itself. -/
def toSelf (machine : UInt8) : Event := { id := selfId, p8 := machine }

/-- The timeout of a timer, with the cookie of the start it belongs to. -/
def timeout (index : UInt8) (cookie : UInt16) : Event :=
  { id := timerId, p8 := index, p16 := cookie }

/-- The mark for a timer that was started. -/
def timerArm (index : UInt8) (ticks : UInt16) : Event :=
  { id := timerArmId, p8 := index, p16 := ticks }

/-- The mark for a timer that was stopped with ticks left. -/
def timerStop (index : UInt8) (ticks : UInt16) : Event :=
  { id := timerStopId, p8 := index, p16 := ticks }

/-- The mark for an event that found no room. -/
def queueFull (rejected : UInt8) : Event := { id := queueFullId, p8 := rejected }

/-- The mark for a machine that enters a new state. -/
def stateChange (machine state : UInt8) : Event :=
  { id := stateChangeId, p8 := machine, p16 := state.toUInt16 }

/-! ### Packing -/

/-- Whether this is the null event, whatever its parameters. -/
def isNil (event : Event) : Bool := event.id = nilId

/-- An event as one word: the id in the low byte, then the small parameter, then the large one. -/
def toBits (event : Event) : UInt32 :=
  event.p16.toUInt32 * 65536 + event.p8.toUInt32 * 256 + event.id.toUInt32

/-- The event that a word stands for. -/
def ofBits (bits : UInt32) : Event :=
  { id := bits.toUInt8, p8 := (bits / 256).toUInt8, p16 := (bits / 65536).toUInt16 }

/-- An event survives packing. -/
@[simp] theorem ofBits_toBits (event : Event) : ofBits event.toBits = event := by
  obtain ⟨id, p8, p16⟩ := event
  have smallId := id.toNat_lt
  have smallP8 := p8.toNat_lt
  have smallP16 := p16.toNat_lt
  simp only [ofBits, toBits, mk.injEq]
  refine ⟨UInt8.toNat_inj.1 ?_, UInt8.toNat_inj.1 ?_, UInt16.toNat_inj.1 ?_⟩ <;> simp <;> omega

/-- Every word stands for exactly one event. -/
@[simp] theorem toBits_ofBits (bits : UInt32) : (ofBits bits).toBits = bits := by
  have small := bits.toNat_lt
  apply UInt32.toNat_inj.1
  simp [ofBits, toBits]
  omega

end Event

end BusNode
