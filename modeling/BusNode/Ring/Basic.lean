/-
This file defines the ring, a queue of fixed depth with two ends. It backs the queue of events and
the trace. Two counters of one byte run freely: elements are added where the upper one points and
taken where the lower one points, and what is between them, in wrapping arithmetic, is held. A place
is a counter's remainder, and a place that is given up keeps its old contents until it is used
again.

`toList` shows what a ring holds, oldest first. That no more is held than there are places is part
of the type.
-/
import BusNode.Ring.Depth

namespace BusNode

/-- A queue of fixed depth with two ends. -/
structure Ring (α : Type) (depth : Depth) where
  places : Vector α depth.size
  /-- The count of the oldest element. -/
  head : UInt8
  /-- The count that the next new element will have. -/
  tail : UInt8
  bounded : (tail - head).toNat ≤ depth.size

namespace Ring

variable {α : Type} {depth : Depth}

/-- The place for a count. -/
def place (depth : Depth) (counter : UInt8) : Fin depth.size :=
  ⟨counter.toNat % depth.size, Nat.mod_lt _ depth.size_pos⟩

/-- An empty ring whose counters start at the given count. -/
def emptyAt [Inhabited α] (offset : UInt8) : Ring α depth where
  places := Vector.replicate depth.size default
  head := offset
  tail := offset
  bounded := by simp

/-- An empty ring. -/
def empty [Inhabited α] : Ring α depth := emptyAt 0

instance [Inhabited α] : Inhabited (Ring α depth) := ⟨empty⟩

/-! ### What a ring holds -/

/-- How many elements the ring holds. -/
def length (ring : Ring α depth) : Nat := (ring.tail - ring.head).toNat

/-- Whether the ring holds nothing. -/
def isEmpty (ring : Ring α depth) : Bool := ring.length = 0

/-- Whether every place is taken. -/
def isFull (ring : Ring α depth) : Bool := depth.size ≤ ring.length

/-- The element at a place after the oldest. -/
def elementAt (index : Nat) (ring : Ring α depth) : α :=
  ring.places[place depth (ring.head + UInt8.ofNat index)]

/-- The elements, oldest first. -/
def toList (ring : Ring α depth) : List α := (List.range ring.length).map ring.elementAt

/-- The oldest element, which stays where it is. -/
def front? (ring : Ring α depth) : Option α :=
  if ring.isEmpty then none else some (ring.places[place depth ring.head])

/-! ### Adding and taking -/

/-- Adds an element behind all others. A full ring has no room for it. -/
def pushBack? (element : α) (ring : Ring α depth) : Option (Ring α depth) :=
  if room : ring.length < depth.size then
    some {
      places := ring.places.set (place depth ring.tail).val element (place depth ring.tail).isLt
      head := ring.head
      tail := ring.tail + 1
      bounded := by
        have small := depth.size_le
        have step : (ring.tail + 1 - ring.head).toNat = (ring.tail - ring.head).toNat + 1 := by
          have low := ring.tail.toNat_lt
          have high := ring.head.toNat_lt
          simp only [length, UInt8.toNat_sub, UInt8.toNat_add, UInt8.toNat_one] at room ⊢
          omega
        simp only [length] at room
        omega }
  else none

/-- Adds an element ahead of all others. A full ring has no room for it. -/
def pushFront? (element : α) (ring : Ring α depth) : Option (Ring α depth) :=
  if room : ring.length < depth.size then
    some {
      places :=
        ring.places.set (place depth (ring.head - 1)).val element (place depth (ring.head - 1)).isLt
      head := ring.head - 1
      tail := ring.tail
      bounded := by
        have small := depth.size_le
        have step : (ring.tail - (ring.head - 1)).toNat = (ring.tail - ring.head).toNat + 1 := by
          have low := ring.tail.toNat_lt
          have high := ring.head.toNat_lt
          simp only [length, UInt8.toNat_sub, UInt8.toNat_one] at room ⊢
          omega
        simp only [length] at room
        omega }
  else none

/-- Gives up the place of the oldest element. An empty ring stays as it is. -/
def dropFront (ring : Ring α depth) : Ring α depth :=
  if held : 0 < ring.length then
    { ring with
      head := ring.head + 1
      bounded := by
        have bounded := ring.bounded
        have step : (ring.tail - (ring.head + 1)).toNat + 1 = (ring.tail - ring.head).toNat := by
          have low := ring.tail.toNat_lt
          have high := ring.head.toNat_lt
          simp only [length, UInt8.toNat_sub, UInt8.toNat_add, UInt8.toNat_one] at held ⊢
          omega
        omega }
  else ring

/-- Takes the oldest element. -/
def popFront? (ring : Ring α depth) : Option (α × Ring α depth) :=
  ring.front?.map fun oldest => (oldest, ring.dropFront)

/-- Adds an element behind all others, and gives up the oldest one for it if every place is taken.
The element that was given up, if any, is returned. -/
def pushOver (element : α) (ring : Ring α depth) : Option α × Ring α depth :=
  match ring.pushBack? element with
  | some added => (none, added)
  | none => (ring.front?, (ring.dropFront.pushBack? element).getD ring.dropFront)

/-- Gives up all elements. The counters go on from where they are. -/
def clear (ring : Ring α depth) : Ring α depth :=
  { ring with head := ring.tail, bounded := by simp }

end Ring

end BusNode
