/-
This file says what each operation on a ring does to the list of its elements. Adding behind puts an
element at the end of the list and adding ahead puts it at the start; taking removes the first; and
a ring is full exactly when the list is as long as the ring is deep. With these facts at hand
nothing else needs to look at counters and places.

They rest on one observation. Counters that are fewer steps apart than there are places have
different places, because places repeat with a period that divides the range of the counters.
-/
import BusNode.Ring.Basic

namespace BusNode.Ring

variable {α : Type} {depth : Depth}

/-! ### Places -/

/-- The place that is some steps after a count. -/
theorem place_add (counter : UInt8) (steps : Nat) :
    (place depth (counter + UInt8.ofNat steps)).val = (counter.toNat + steps) % depth.size := by
  have divides : depth.size ∣ 256 := depth.size_dvd
  simp only [place, UInt8.toNat_add, UInt8.toNat_ofNat']
  rw [Nat.mod_mod_of_dvd _ divides, Nat.add_mod, Nat.mod_mod_of_dvd _ divides, ← Nat.add_mod]

/-- Counts that are fewer steps apart than there are places have different places. -/
theorem place_add_ne {counter : UInt8} {few more : Nat} (order : few < more)
    (near : more < depth.size) :
    (place depth (counter + UInt8.ofNat more)).val ≠
      (place depth (counter + UInt8.ofNat few)).val := by
  rw [place_add, place_add]
  intro same
  have apart := Nat.sub_mod_eq_zero_of_mod_eq same
  rw [Nat.add_sub_add_left, Nat.mod_eq_of_lt (by omega)] at apart
  omega

/-! ### Lengths -/

@[simp] theorem length_toList (ring : Ring α depth) : ring.toList.length = ring.length := by
  simp [toList]

/-- No ring holds more than it has places for. -/
theorem length_le (ring : Ring α depth) : ring.length ≤ depth.size := ring.bounded

theorem isEmpty_iff {ring : Ring α depth} : ring.isEmpty = true ↔ ring.toList = [] := by
  rw [← List.length_eq_zero_iff, length_toList]
  simp [isEmpty]

theorem isFull_iff {ring : Ring α depth} :
    ring.isFull = true ↔ ring.toList.length = depth.size := by
  have bound := ring.length_le
  rw [length_toList]
  simp only [isFull, decide_eq_true_eq]
  omega

/-- A ring whose two counters agree holds nothing. -/
@[simp] theorem toList_emptyAt [Inhabited α] (offset : UInt8) :
    (emptyAt offset : Ring α depth).toList = [] := by
  rw [← List.length_eq_zero_iff, length_toList]
  simp [length, emptyAt]

@[simp] theorem toList_clear (ring : Ring α depth) : ring.clear.toList = [] := by
  rw [← List.length_eq_zero_iff, length_toList]
  simp [length, clear]

/-! ### Elements -/

/-- The tail is as many steps after the head as there are elements. -/
theorem head_add_length (ring : Ring α depth) :
    ring.head + UInt8.ofNat ring.length = ring.tail := by
  have low := ring.tail.toNat_lt
  have high := ring.head.toNat_lt
  apply UInt8.toNat_inj.1
  simp only [length, UInt8.toNat_add, UInt8.toNat_ofNat', UInt8.toNat_sub]
  omega

/-- Writing one place leaves the elements at other places alone. -/
theorem elementAt_eq {left right : Ring α depth} {index shift : Nat} {slot : Fin depth.size}
    {element : α} (places : left.places = right.places.set slot.val element slot.isLt)
    (shifted : left.head + UInt8.ofNat index = right.head + UInt8.ofNat shift)
    (apart : slot.val ≠ (place depth (right.head + UInt8.ofNat shift)).val) :
    left.elementAt index = right.elementAt shift := by
  simp [elementAt, shifted, places, Vector.getElem_set_ne, apart]

/-- The front is the first element of the list. -/
theorem front?_eq (ring : Ring α depth) : ring.front? = ring.toList.head? := by
  by_cases empty : ring.length = 0
  · simp [front?, isEmpty, toList, empty]
  · obtain ⟨more, equal⟩ : ∃ more, ring.length = more + 1 := ⟨ring.length - 1, by omega⟩
    simp [front?, isEmpty, toList, equal, List.range_succ_eq_map, elementAt]

/-- There is room behind exactly when there is room at all. -/
theorem pushBack?_eq_none_iff {element : α} {ring : Ring α depth} :
    ring.pushBack? element = none ↔ ring.isFull = true := by
  simp only [pushBack?, isFull, decide_eq_true_eq]
  split <;> simp <;> omega

/-- There is room ahead exactly when there is room at all. -/
theorem pushFront?_eq_none_iff {element : α} {ring : Ring α depth} :
    ring.pushFront? element = none ↔ ring.isFull = true := by
  simp only [pushFront?, isFull, decide_eq_true_eq]
  split <;> simp <;> omega

/-- Adding behind puts the element at the end. -/
theorem toList_pushBack? {element : α} {ring added : Ring α depth}
    (pushed : ring.pushBack? element = some added) : added.toList = ring.toList ++ [element] := by
  unfold pushBack? at pushed
  split at pushed
  case isFalse => simp at pushed
  case isTrue room =>
    have longer : added.length = ring.length + 1 := by
      have small := depth.size_le
      have low := ring.tail.toNat_lt
      have high := ring.head.toNat_lt
      cases pushed
      simp only [length, UInt8.toNat_sub, UInt8.toNat_add, UInt8.toNat_one] at room ⊢
      omega
    have atTail := ring.head_add_length
    rw [toList, longer, List.range_succ, List.map_append, toList]
    congr 1
    · refine List.map_congr_left fun index member => ?_
      have before := List.mem_range.1 member
      cases pushed
      refine elementAt_eq rfl rfl ?_
      rw [← atTail]
      exact place_add_ne before room
    · cases pushed
      simp [elementAt, atTail]

/-- Adding ahead puts the element at the start. -/
theorem toList_pushFront? {element : α} {ring added : Ring α depth}
    (pushed : ring.pushFront? element = some added) : added.toList = element :: ring.toList := by
  unfold pushFront? at pushed
  split at pushed
  case isFalse => simp at pushed
  case isTrue room =>
    have longer : added.length = ring.length + 1 := by
      have small := depth.size_le
      have low := ring.tail.toNat_lt
      have high := ring.head.toNat_lt
      cases pushed
      simp only [length, UInt8.toNat_sub, UInt8.toNat_one] at room ⊢
      omega
    rw [toList, longer, List.range_succ_eq_map, List.map_cons, List.map_map, toList]
    congr 1
    · cases pushed
      simp [elementAt]
    · refine List.map_congr_left fun index member => ?_
      have before := List.mem_range.1 member
      have shifted : ring.head - 1 + UInt8.ofNat (index + 1) = ring.head + UInt8.ofNat index := by
        apply UInt8.toNat_inj.1
        have high := ring.head.toNat_lt
        simp only [UInt8.toNat_add, UInt8.toNat_sub, UInt8.toNat_one, UInt8.toNat_ofNat']
        omega
      cases pushed
      refine elementAt_eq rfl shifted ?_
      rw [← shifted]
      have apart :=
        @place_add_ne depth (ring.head - 1) 0 (index + 1) (Nat.succ_pos index) (by omega)
      simpa using apart.symm

/-- Giving up the oldest place removes the first element. -/
theorem toList_dropFront (ring : Ring α depth) : ring.dropFront.toList = ring.toList.tail := by
  unfold dropFront
  split
  case isFalse none =>
    have nothing : ring.toList = [] := by
      rw [← List.length_eq_zero_iff, length_toList]
      omega
    simp [nothing]
  case isTrue held =>
    obtain ⟨more, equal⟩ : ∃ more, ring.length = more + 1 := ⟨ring.length - 1, by omega⟩
    have shorter : (ring.tail - (ring.head + 1)).toNat = more := by
      have low := ring.tail.toNat_lt
      have high := ring.head.toNat_lt
      simp only [length, UInt8.toNat_sub, UInt8.toNat_add, UInt8.toNat_one] at equal ⊢
      omega
    simp only [toList, length, shorter]
    rw [← length, equal, List.range_succ_eq_map, List.map_cons, List.tail_cons, List.map_map]
    refine List.map_congr_left fun index _ => ?_
    have shifted : ring.head + 1 + UInt8.ofNat index = ring.head + UInt8.ofNat (index + 1) := by
      apply UInt8.toNat_inj.1
      simp only [UInt8.toNat_add, UInt8.toNat_one, UInt8.toNat_ofNat']
      omega
    simp [elementAt, shifted]

/-- Adding behind a full ring gives up the first element, and adding behind any other gives up
none. -/
theorem pushOver_fst (element : α) (ring : Ring α depth) :
    (ring.pushOver element).1 = if ring.isFull then ring.toList.head? else none := by
  unfold pushOver
  cases pushed : ring.pushBack? element with
  | none => simp [pushBack?_eq_none_iff.1 pushed, front?_eq]
  | some added =>
    have room : ring.isFull ≠ true := fun full => by
      simp [pushBack?_eq_none_iff.2 full] at pushed
    simp [room]

/-- Adding behind a full ring makes room at the front, and adding behind any other does not. -/
theorem toList_pushOver (element : α) (ring : Ring α depth) :
    (ring.pushOver element).2.toList =
      (if ring.isFull then ring.toList.tail else ring.toList) ++ [element] := by
  unfold pushOver
  cases pushed : ring.pushBack? element with
  | some added =>
    have room : ring.isFull ≠ true := fun full => by
      simp [pushBack?_eq_none_iff.2 full] at pushed
    simp [room, toList_pushBack? pushed]
  | none =>
    have full := pushBack?_eq_none_iff.1 pushed
    have shorter : ring.dropFront.isFull ≠ true := fun still => by
      have before := isFull_iff.1 full
      have after := isFull_iff.1 still
      rw [toList_dropFront, List.length_tail, before] at after
      have positive := depth.size_pos
      omega
    cases again : ring.dropFront.pushBack? element with
    | none => exact absurd (pushBack?_eq_none_iff.1 again) shorter
    | some added => simp [full, toList_pushBack? again, toList_dropFront]

/-- There is nothing to take exactly when nothing is held. -/
theorem popFront?_eq_none_iff {ring : Ring α depth} : ring.popFront? = none ↔ ring.toList = [] := by
  simp [popFront?, front?_eq]

/-- Taking gives the first element and leaves the rest. -/
theorem toList_of_popFront? {ring rest : Ring α depth} {oldest : α}
    (taken : ring.popFront? = some (oldest, rest)) : ring.toList = oldest :: rest.toList := by
  simp only [popFront?, front?_eq, Option.map_eq_some_iff, Prod.mk.injEq] at taken
  obtain ⟨first, found, rfl, rfl⟩ := taken
  rw [toList_dropFront]
  cases held : ring.toList with
  | nil => simp [held] at found
  | cons front others =>
    rw [held, List.head?_cons, Option.some.injEq] at found
    rw [found, List.tail_cons]

end BusNode.Ring
