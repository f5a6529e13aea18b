/-
This file says what each operation on a trace does to the list of its entries. A write that the mask
allows adds an entry at the end and, if the list is already as long as the trace is deep, removes
the first and counts it. No other write changes anything, and no edit of the mask changes an entry.
-/
import BusNode.Ring.View
import BusNode.Trace.Log

namespace BusNode.TraceLog

variable {depth : Depth}

@[simp] theorem length_toList (log : TraceLog depth) : log.toList.length = log.length :=
  Ring.length_toList _

/-- No more entries are held than there is room for. -/
theorem length_le (log : TraceLog depth) : log.length ≤ depth.size := Ring.length_le _

@[simp] theorem toList_empty : (empty : TraceLog depth).toList = [] := Ring.toList_emptyAt 0

@[simp] theorem toList_clear (log : TraceLog depth) : log.clear.toList = [] :=
  Ring.toList_clear _

@[simp] theorem toList_editMask (edit : TraceMask → TraceMask) (log : TraceLog depth) :
    (log.editMask edit).toList = log.toList := rfl

/-- A write that the mask does not allow changes nothing. -/
theorem write_of_masked {event : Event} {log : TraceLog depth}
    (masked : log.mask.records event.id = false) (time : UInt32) : log.write time event = log := by
  simp [write, masked]

/-- No write changes the mask. -/
@[simp] theorem mask_write (time : UInt32) (event : Event) (log : TraceLog depth) :
    (log.write time event).mask = log.mask := by
  unfold write
  split
  · split <;> rfl
  · rfl

/-- A write that the mask allows adds its entry at the end, and makes room for it at the front. -/
theorem toList_write {event : Event} {log : TraceLog depth}
    (allowed : log.mask.records event.id = true) (time : UInt32) :
    (log.write time event).toList =
      (if log.ring.isFull then log.toList.tail else log.toList) ++ [⟨time, event⟩] := by
  have pushed := Ring.toList_pushOver ⟨time, event⟩ log.ring
  unfold write
  rw [if_pos allowed]
  split
  · next equal => simpa [toList, equal] using pushed
  · next equal => simpa [toList, equal] using pushed

/-- A write counts an entry that gave way exactly when it is allowed and the trace is full. -/
theorem overwritten_write (time : UInt32) (event : Event) (log : TraceLog depth) :
    (log.write time event).overwritten =
      if log.mask.records event.id && log.ring.isFull then log.overwritten + 1
      else log.overwritten := by
  have evicted := Ring.pushOver_fst ⟨time, event⟩ log.ring
  unfold write
  cases allowed : log.mask.records event.id with
  | false => simp
  | true =>
    simp only [if_true, Bool.true_and]
    cases full : log.ring.isFull with
    | false =>
      rw [full] at evicted
      split
      · rfl
      · next equal => simp [equal] at evicted
    | true =>
      have held : log.ring.toList ≠ [] := fun nothing => by
        have long := Ring.isFull_iff.1 full
        have positive := depth.size_pos
        rw [nothing, List.length_nil] at long
        omega
      rw [full, if_pos rfl] at evicted
      split
      · next equal =>
        rw [equal] at evicted
        exact absurd (List.head?_eq_none_iff.1 evicted.symm) held
      · rfl

/-- Nothing is read exactly when nothing is held. -/
theorem read?_eq_none_iff (log : TraceLog depth) : log.read? = none ↔ log.toList = [] := by
  simp [read?, Ring.popFront?_eq_none_iff, toList]

/-- Reading takes the first entry. -/
theorem toList_of_read? {entry : TraceEntry} {log rest : TraceLog depth}
    (taken : log.read? = some (entry, rest)) : log.toList = entry :: rest.toList := by
  simp only [read?, Option.map_eq_some_iff, Prod.mk.injEq, Prod.exists] at taken
  obtain ⟨oldest, ring, popped, rfl, rfl⟩ := taken
  exact Ring.toList_of_popFront? popped

end BusNode.TraceLog
