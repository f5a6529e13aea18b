/-
This file says what a trace keeps of everything that is written to it. A tape is a trace with no end
of room: it holds what was written since the trace was last cleared, as far as the mask allowed it
when it was written. Beside that it counts what is no longer in the trace. An entry is counted as
read when it is taken, and as lost when another is written while the trace is full.

The trace holds the newest entries of the tape, all but those that are counted.
-/
import BusNode.Trace.View

namespace BusNode

/-- Writes an entry. -/
def TraceLog.put {depth : Depth} (log : TraceLog depth) (entry : TraceEntry) : TraceLog depth :=
  log.write entry.time entry.event

/-- What was written to a trace since it was last cleared. -/
structure Tape where
  mask : TraceMask := .none
  /-- What the mask allowed when it was written. -/
  kept : List TraceEntry := []
  /-- How many entries were read. -/
  read : Nat := 0
  /-- How many entries have given way to others. -/
  lost : Nat := 0

namespace Tape

/-- The entries that were neither read nor lost. -/
def held (tape : Tape) : List TraceEntry := tape.kept.drop (tape.read + tape.lost)

/-- Writes an entry, where there is room for a number of them. -/
def put (room : Nat) (tape : Tape) (entry : TraceEntry) : Tape :=
  if tape.mask.records entry.event.id then
    { tape with
      kept := tape.kept ++ [entry]
      lost := if tape.held.length = room then tape.lost + 1 else tape.lost }
  else tape

def write (room : Nat) (entries : List TraceEntry) (tape : Tape) : Tape :=
  entries.foldl (put room) tape

def skip (tape : Tape) : Tape :=
  if tape.held.isEmpty then tape else { tape with read := tape.read + 1 }

def clear (tape : Tape) : Tape := { mask := tape.mask }

def editMask (edit : TraceMask → TraceMask) (tape : Tape) : Tape :=
  { tape with mask := edit tape.mask }

/-- A trace holds what a tape holds, and counts what the tape has lost, up to the wrap of its
counter. -/
structure Ends {depth : Depth} (log : TraceLog depth) (tape : Tape) : Prop where
  mask : log.mask = tape.mask
  overwritten : log.overwritten = UInt32.ofNat tape.lost
  within : tape.read + tape.lost ≤ tape.kept.length
  held : log.toList = tape.held

theorem ends_empty {depth : Depth} : Ends (.empty : TraceLog depth) {} where
  mask := rfl
  overwritten := rfl
  within := Nat.le_refl 0
  held := TraceLog.toList_empty

namespace Ends

variable {depth : Depth} {log : TraceLog depth} {tape : Tape}

/-- What is held is what is left of the tape. -/
theorem length_held (ends : Ends log tape) :
    tape.read + tape.lost + log.length = tape.kept.length := by
  rw [← TraceLog.length_toList, ends.held, Tape.held, List.length_drop]
  exact Nat.add_sub_cancel' ends.within

/-- A write to a full trace makes its first entry give way. -/
theorem put (ends : Ends log tape) (entry : TraceEntry) :
    Ends (log.put entry) (tape.put depth.size entry) := by
  have mask : (log.put entry).mask = log.mask := TraceLog.mask_write _ _ _
  have counted := TraceLog.overwritten_write entry.time entry.event log
  have length := ends.length_held
  rw [Tape.put]
  cases allowed : tape.mask.records entry.event.id with
  | false =>
    rw [← ends.mask] at allowed
    rw [TraceLog.put, TraceLog.write_of_masked allowed]
    exact ends
  | true =>
    rw [← ends.mask] at allowed
    have written := TraceLog.toList_write allowed entry.time
    rw [allowed, Bool.true_and] at counted
    rw [if_pos rfl, ← ends.held]
    cases full : log.ring.isFull with
    | false =>
      have room : log.toList.length ≠ depth.size := fun same =>
        Bool.false_ne_true (full.symm.trans (Ring.isFull_iff.mpr same))
      rw [full] at counted written
      rw [if_neg room]
      refine ⟨mask.trans ends.mask, counted.trans ends.overwritten, ?_, written.trans ?_⟩
      · rw [List.length_append]
        exact Nat.le_add_right_of_le ends.within
      · rw [ends.held]
        exact (List.drop_append_of_le_length ends.within).symm
    | true =>
      have long : log.toList.length = depth.size := Ring.isFull_iff.mp full
      have positive := depth.size_pos
      rw [TraceLog.length_toList] at long
      rw [full] at counted written
      rw [if_pos (log.length_toList.trans long)]
      refine ⟨mask.trans ends.mask, counted.trans ?_, ?_, written.trans ?_⟩
      · rw [ends.overwritten, UInt32.ofNat_add]
        rfl
      · show tape.read + (tape.lost + 1) ≤ (tape.kept ++ [entry]).length
        rw [List.length_append]
        omega
      · rw [if_pos rfl, ends.held, Tape.held, List.tail_drop, Nat.add_assoc]
        exact (List.drop_append_of_le_length (by omega)).symm

theorem write (ends : Ends log tape) (entries : List TraceEntry) :
    Ends (entries.foldl TraceLog.put log) (tape.write depth.size entries) := by
  induction entries generalizing log tape with
  | nil => exact ends
  | cons entry rest inductionHypothesis => exact inductionHypothesis (ends.put entry)

theorem skip_of_none (ends : Ends log tape) (empty : log.read? = none) : Ends log tape.skip := by
  rw [Tape.skip, ← ends.held, (TraceLog.read?_eq_none_iff log).mp empty]
  exact ends

theorem skip_of_some (ends : Ends log tape) {entry : TraceEntry} {rest : TraceLog depth}
    (taken : log.read? = some (entry, rest)) : Ends rest tape.skip := by
  have split := TraceLog.toList_of_read? taken
  have length := ends.length_held
  obtain ⟨⟨oldest, ring⟩, -, same⟩ := Option.map_eq_some_iff.mp taken
  obtain ⟨rfl, rfl⟩ := Prod.mk.inj same
  rw [← TraceLog.length_toList, split, List.length_cons] at length
  rw [ends.held] at split
  rw [Tape.skip, split]
  refine ⟨ends.mask, ends.overwritten, ?_, ?_⟩
  · simp only [List.isEmpty_cons, Bool.false_eq_true, if_false]
    omega
  · have later := congrArg List.tail split
    rw [Tape.held, List.tail_drop, List.tail_cons] at later
    rw [← later, Tape.held, Nat.add_right_comm]
    rfl

theorem clear (ends : Ends log tape) : Ends log.clear tape.clear where
  mask := ends.mask
  overwritten := rfl
  within := Nat.le_refl 0
  held := TraceLog.toList_clear log

theorem editMask (ends : Ends log tape) (edit : TraceMask → TraceMask) :
    Ends (log.editMask edit) (tape.editMask edit) where
  mask := congrArg edit ends.mask
  overwritten := ends.overwritten
  within := ends.within
  held := ends.held

end Ends

end Tape

end BusNode
