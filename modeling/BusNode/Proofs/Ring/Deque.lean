/-
This file proves that a ring is a bounded queue with two ends. The queue it is held against is a
plain list: elements join it at either end as long as it is shorter than the depth, and leave it at
the front. Counters, places and wrapping do not show: whatever is asked of a ring, in whatever
order and from whatever count it started, it answers as the list does and shows what the list shows.

A refused element comes back. So an answer says what became of the element that was brought.
-/
import BusNode.Ring.View

namespace BusNode

/-! ### A bounded list -/

/-- What can be asked of a queue with two ends. -/
inductive Demand (α : Type) where
  | pushBack (element : α)
  | pushFront (element : α)
  /-- To add an element behind all others, even if the oldest one has to go. -/
  | pushOver (element : α)
  | popFront
  /-- To show the oldest element, which stays. -/
  | front
  | clear

/-- What a queue answers. -/
inductive Response (α : Type) where
  /-- The element that was brought is held now. -/
  | accepted
  /-- The element that was brought comes back. -/
  | handedBack (element : α)
  /-- The element that was taken, given up or shown, if there was one. -/
  | gave (element : Option α)
  | cleared
  deriving DecidableEq

/-- What can be seen of a queue. -/
structure Sight (α : Type) where
  length : Nat
  isEmpty : Bool
  isFull : Bool
  elements : List α
  deriving DecidableEq

namespace Demand

variable {α : Type}

/-- What a list of limited length answers, and the list afterwards. -/
def onList (capacity : Nat) (held : List α) : Demand α → Response α × List α
  | pushBack element =>
    if held.length < capacity then (.accepted, held ++ [element]) else (.handedBack element, held)
  | pushFront element =>
    if held.length < capacity then (.accepted, element :: held) else (.handedBack element, held)
  | pushOver element =>
    if held.length < capacity then (.gave none, held ++ [element])
    else (.gave held.head?, held.tail ++ [element])
  | popFront => (.gave held.head?, held.tail)
  | front => (.gave held.head?, held)
  | clear => (.cleared, [])

/-- What a ring answers to an element for which it may have no room. -/
def settle {depth : Depth} (element : α) (ring : Ring α depth) :
    Option (Ring α depth) → Response α × Ring α depth
  | some added => (.accepted, added)
  | none => (.handedBack element, ring)

/-- What a ring answers, and the ring afterwards. -/
def onRing {depth : Depth} (ring : Ring α depth) : Demand α → Response α × Ring α depth
  | pushBack element => settle element ring (ring.pushBack? element)
  | pushFront element => settle element ring (ring.pushFront? element)
  | pushOver element =>
    let (oldest, added) := ring.pushOver element
    (.gave oldest, added)
  | popFront =>
    match ring.popFront? with
    | some (oldest, rest) => (.gave (some oldest), rest)
    | none => (.gave none, ring)
  | front => (.gave ring.front?, ring)
  | clear => (.cleared, ring.clear)

end Demand

namespace Sight

variable {α : Type}

/-- What can be seen of a list of limited length. -/
def ofList (capacity : Nat) (held : List α) : Sight α :=
  { length := held.length
    isEmpty := held.isEmpty
    isFull := held.length = capacity
    elements := held }

/-- What can be seen of a ring. -/
def ofRing {depth : Depth} (ring : Ring α depth) : Sight α :=
  { length := ring.length
    isEmpty := ring.isEmpty
    isFull := ring.isFull
    elements := ring.toList }

end Sight

section Runs

variable {α State : Type}

/-- What comes of demands one after another: each answer, with what can be seen afterwards. -/
def outcomes (answer : State → Demand α → Response α × State) (sight : State → Sight α) :
    State → List (Demand α) → List (Response α × Sight α)
  | _, [] => []
  | state, demand :: rest =>
    ((answer state demand).1, sight (answer state demand).2) ::
      outcomes answer sight (answer state demand).2 rest

end Runs

/-! ### A ring against a list -/

namespace Ring

variable {α : Type} {depth : Depth}

theorem length_lt_iff (ring : Ring α depth) :
    ring.toList.length < depth.size ↔ ring.isFull ≠ true := by
  have bound := ring.length_le
  rw [ne_eq, isFull_iff, length_toList]
  omega

theorem sight_eq (ring : Ring α depth) :
    Sight.ofRing ring = Sight.ofList depth.size ring.toList := by
  have empty : ring.isEmpty = ring.toList.isEmpty := by
    rw [Bool.eq_iff_iff, isEmpty_iff, List.isEmpty_iff]
  have full : ring.isFull = decide (ring.length = depth.size) := by
    rw [Bool.eq_iff_iff, isFull_iff, length_toList, decide_eq_true_eq]
  rw [Sight.ofRing, Sight.ofList, length_toList, empty, full]

theorem settle_eq {ring : Ring α depth} {element : α} {pushed : Option (Ring α depth)}
    {grown : List α} (refused : pushed = none ↔ ring.isFull = true)
    (holds : ∀ added, pushed = some added → added.toList = grown) :
    Prod.map id toList (Demand.settle element ring pushed) =
      if ring.toList.length < depth.size then (.accepted, grown)
      else (.handedBack element, ring.toList) := by
  cases pushed with
  | none =>
    have full := refused.mp rfl
    rw [if_neg fun room => ring.length_lt_iff.mp room full]
    rfl
  | some added =>
    have room : ring.isFull ≠ true := fun full => by cases refused.mpr full
    rw [if_pos (ring.length_lt_iff.mpr room), ← holds added rfl]
    rfl

/-- A ring answers as the list of its elements does, and holds afterwards what the list holds. -/
theorem onRing_eq (ring : Ring α depth) (demand : Demand α) :
    Prod.map id toList (demand.onRing ring) = demand.onList depth.size ring.toList := by
  cases demand with
  | pushBack element => exact settle_eq pushBack?_eq_none_iff fun _ => toList_pushBack?
  | pushFront element => exact settle_eq pushFront?_eq_none_iff fun _ => toList_pushFront?
  | pushOver element =>
    have answer := pushOver_fst element ring
    have held := toList_pushOver element ring
    rw [Demand.onRing, Demand.onList]
    by_cases full : ring.isFull = true
    · rw [if_pos full] at answer held
      rw [if_neg fun room => ring.length_lt_iff.mp room full, ← answer, ← held]
      rfl
    · rw [if_neg full] at answer held
      rw [if_pos (ring.length_lt_iff.mpr full), ← answer, ← held]
      rfl
  | popFront =>
    rw [Demand.onRing, Demand.onList]
    cases popped : ring.popFront? with
    | none =>
      have blank := popFront?_eq_none_iff.mp popped
      rw [blank]
      exact congrArg (Prod.mk _) blank
    | some pair =>
      obtain ⟨oldest, rest⟩ := pair
      rw [toList_of_popFront? popped]
      rfl
  | front => exact congrArg (fun oldest => (Response.gave oldest, ring.toList)) ring.front?_eq
  | clear => exact congrArg (Prod.mk _) ring.toList_clear

/-- What comes of demands on a ring is what comes of them on the list of its elements. -/
theorem outcomes_eq (ring : Ring α depth) (demands : List (Demand α)) :
    outcomes Demand.onRing Sight.ofRing ring demands =
      outcomes (Demand.onList depth.size) (Sight.ofList depth.size) ring.toList demands := by
  induction demands generalizing ring with
  | nil => rfl
  | cons demand rest inductionHypothesis =>
    have answer : (demand.onRing ring).1 = (demand.onList depth.size ring.toList).1 :=
      congrArg Prod.fst (ring.onRing_eq demand)
    have after : (demand.onRing ring).2.toList = (demand.onList depth.size ring.toList).2 :=
      congrArg Prod.snd (ring.onRing_eq demand)
    rw [outcomes, outcomes, sight_eq, inductionHypothesis, answer, after]

/-- A ring of any depth, started at any count, acts as a list that is no longer than the ring is
deep: it shows nothing at first, and after that every answer and everything that can be seen is the
same. -/
theorem acts_as_bounded_list [Inhabited α] (offset : UInt8) (demands : List (Demand α)) :
    Sight.ofRing (emptyAt offset : Ring α depth) = Sight.ofList depth.size [] ∧
      outcomes Demand.onRing Sight.ofRing (emptyAt offset : Ring α depth) demands =
        outcomes (Demand.onList depth.size) (Sight.ofList depth.size) [] demands := by
  have blank : (emptyAt offset : Ring α depth).toList = [] := toList_emptyAt offset
  rw [sight_eq, outcomes_eq, blank]
  exact ⟨rfl, rfl⟩

/-- The counters of this ring pass the end of their range in both directions. -/
example : outcomes Demand.onRing Sight.ofRing (emptyAt 255 : Ring Nat { exponent := 1 })
    [.pushBack 1, .pushFront 2, .pushFront 3, .pushOver 4, .popFront] =
      [(.accepted, ⟨1, false, false, [1]⟩), (.accepted, ⟨2, false, true, [2, 1]⟩),
        (.handedBack 3, ⟨2, false, true, [2, 1]⟩), (.gave (some 2), ⟨2, false, true, [1, 4]⟩),
        (.gave (some 1), ⟨1, false, false, [4]⟩)] := by
  decide +kernel

end Ring

end BusNode
