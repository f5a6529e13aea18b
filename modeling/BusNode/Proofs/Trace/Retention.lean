/-
This file proves that a trace keeps the newest of the entries it accepts and counts the others. It is
written to, read, cleared, and its mask edited, in any order and any number of times. What was done
to it so far is a list with the newest act first, so that what came before an act is the rest of
the list behind it.

An entry is accepted if the last edit that spoke of its id said that it be recorded. Of what was
accepted since the last clear, some entries were read, some gave way to newer ones, and the others
are held: these are the newest, and no entry is missing from the count.
-/
import BusNode.Proofs.Trace.Mask
import BusNode.Proofs.Trace.Tape
import Mathlib.Data.Nat.ModEq

namespace BusNode.TraceLog

variable {depth : Depth}

/-! ### Acts -/

/-- One thing that is done to a trace. -/
inductive Act where
  | write (time : UInt32) (event : Event)
  | read
  | clear
  | edit (change : TraceMask.Edit)
  deriving DecidableEq

namespace Act

/-- The trace after an act. Reading an empty trace leaves it as it is. -/
def perform (act : Act) (log : TraceLog depth) : TraceLog depth :=
  match act with
  | write time event => log.write time event
  | read => (log.read?.map Prod.snd).getD log
  | clear => log.clear
  | edit change => log.editMask change.apply

/-- What an act says of the recording of an id, if it speaks of it. -/
def says? (id : UInt8) : Act → Option Bool
  | edit change => change.says? id
  | _ => none

end Act

/-- The trace after all acts, the newest of which is the first. -/
def after : List Act → TraceLog depth
  | [] => .empty
  | act :: earlier => act.perform (after earlier)

/-- What was said last of the recording of an id. -/
def lastWord? (id : UInt8) (acts : List Act) : Option Bool := acts.findSome? (Act.says? id)

/-- The entries that were accepted since the last clear, oldest first. -/
def accepted : List Act → List TraceEntry
  | [] => []
  | .clear :: _ => []
  | .write time event :: earlier =>
    if lastWord? event.id earlier = some true then accepted earlier ++ [⟨time, event⟩]
    else accepted earlier
  | .read :: earlier | .edit _ :: earlier => accepted earlier

/-- The entries that were read since the last clear, in the order in which they were. -/
def given (depth : Depth) : List Act → List TraceEntry
  | [] => []
  | .clear :: _ => []
  | .read :: earlier =>
    given depth earlier ++ ((after earlier : TraceLog depth).read?.map Prod.fst).toList
  | .write _ _ :: earlier | .edit _ :: earlier => given depth earlier

/-! ### The mask -/

/-- Only an edit changes the mask. -/
theorem records_perform (act : Act) (log : TraceLog depth) (id : UInt8) :
    (act.perform log).mask.records id = (act.says? id).getD (log.mask.records id) := by
  cases act with
  | write time event => exact congrArg (TraceMask.records id) (mask_write time event log)
  | read =>
    rw [Act.perform, read?]
    cases log.ring.popFront? <;> rfl
  | clear => rfl
  | edit change => exact TraceMask.records_apply id change log.mask

/-- An id is recorded exactly if the last edit that spoke of it said so. -/
theorem records_after (id : UInt8) (acts : List Act) :
    (after acts : TraceLog depth).mask.records id = (lastWord? id acts).getD false := by
  induction acts with
  | nil => exact TraceMask.records_none id
  | cons act earlier inductionHypothesis =>
    rw [after, records_perform, inductionHypothesis, lastWord?, lastWord?, List.findSome?_cons]
    cases act.says? id <;> rfl

theorem records_after_iff {id : UInt8} {acts : List Act} :
    (after acts : TraceLog depth).mask.records id = true ↔ lastWord? id acts = some true := by
  rw [records_after, Option.getD_eq_iff]
  simp

/-! ### Single acts -/

/-- An accepted entry is added at the end. Where there is no room for it the first one gives way and
is counted. -/
theorem write_of_recorded {event : Event} {log : TraceLog depth}
    (allowed : log.mask.records event.id = true) (time : UInt32) :
    (log.write time event).toList =
        (if log.length = depth.size then log.toList.tail else log.toList) ++ [⟨time, event⟩] ∧
      (log.write time event).overwritten =
        if log.length = depth.size then log.overwritten + 1 else log.overwritten := by
  have full : log.ring.isFull = true ↔ log.length = depth.size := by
    rw [Ring.isFull_iff, ← length_toList, toList]
  rw [toList_write allowed, overwritten_write, allowed, Bool.true_and]
  simp only [full, and_self]

theorem toList_write_sublist {event : Event} {log : TraceLog depth}
    (allowed : log.mask.records event.id = true) (time : UInt32) :
    (log.write time event).toList.Sublist (log.toList ++ [⟨time, event⟩]) := by
  rw [toList_write allowed]
  refine List.Sublist.append ?_ (.refl _)
  split
  · exact List.tail_sublist _
  · exact .refl _

/-- A read of a trace that holds entries gives the first one and leaves everything else. -/
theorem read?_of_toList {entry : TraceEntry} {rest : List TraceEntry} {log : TraceLog depth}
    (held : log.toList = entry :: rest) :
    ∃ later, log.read? = some (entry, later) ∧ later.toList = rest ∧ later.mask = log.mask ∧
      later.overwritten = log.overwritten := by
  cases taken : log.read? with
  | none =>
    rw [(read?_eq_none_iff log).mp taken] at held
    cases held
  | some pair =>
    obtain ⟨first, later⟩ := pair
    have split := toList_of_read? taken
    rw [held, List.cons.injEq] at split
    obtain ⟨rfl, rfl⟩ := split
    simp only [read?, Option.map_eq_some_iff, Prod.mk.injEq, Prod.exists] at taken
    obtain ⟨-, ring, -, -, rfl⟩ := taken
    exact ⟨_, rfl, rfl, rfl, rfl⟩

section

variable {time : UInt32} {event : Event} {earlier : List Act}

theorem accepted_write_of_recorded (said : lastWord? event.id earlier = some true) :
    accepted (.write time event :: earlier) = accepted earlier ++ [⟨time, event⟩] := if_pos said

theorem accepted_write_of_masked (unsaid : ¬ lastWord? event.id earlier = some true) :
    accepted (.write time event :: earlier) = accepted earlier := if_neg unsaid

theorem after_write_of_masked (unsaid : ¬ lastWord? event.id earlier = some true) :
    (after (.write time event :: earlier) : TraceLog depth) = after earlier :=
  write_of_masked (Bool.eq_false_iff.mpr fun set => unsaid (records_after_iff.mp set)) time

theorem after_read_of_none (nothing : (after earlier : TraceLog depth).read? = none) :
    (after (.read :: earlier) : TraceLog depth) = after earlier ∧
      given depth (.read :: earlier) = given depth earlier := by
  rw [after, Act.perform, given, nothing]
  exact ⟨rfl, List.append_nil _⟩

theorem after_read_of_some {entry : TraceEntry} {rest : TraceLog depth}
    (taken : (after earlier : TraceLog depth).read? = some (entry, rest)) :
    after (.read :: earlier) = rest ∧
      given depth (.read :: earlier) = given depth earlier ++ [entry] := by
  rw [after, Act.perform, given, taken]
  exact ⟨rfl, rfl⟩

end

/-! ### What is held -/

/-- The tape with what was accepted and read, if so many entries gave way. -/
def tape (depth : Depth) (acts : List Act) (lost : Nat) : Tape where
  mask := (after acts : TraceLog depth).mask
  kept := accepted acts
  read := (given depth acts).length
  lost := lost

/-- What a trace after acts has to do with the entries that it accepted and those that were read. -/
structure Keeps (depth : Depth) (acts : List Act) (lost : Nat) : Prop where
  /-- What is held are the accepted entries but for those that were read or gave way. -/
  ends : Tape.Ends (after acts : TraceLog depth) (tape depth acts lost)
  /-- Every entry that was read, and every one that is held, was accepted in its own right. -/
  ordered : (given depth acts ++ (after acts : TraceLog depth).toList).Sublist (accepted acts)

theorem keeps_nil : Keeps depth [] 0 where
  ends := Tape.ends_empty
  ordered := toList_empty ▸ List.Sublist.refl _

namespace Keeps

variable {earlier : List Act} {lost : Nat}

theorem write_of_recorded (keeps : Keeps depth earlier lost) {event : Event}
    (said : lastWord? event.id earlier = some true) (time : UInt32) :
    ∃ lost, Keeps depth (.write time event :: earlier) lost := by
  have allowed : (after earlier : TraceLog depth).mask.records event.id = true :=
    records_after_iff.mpr said
  have written := keeps.ends.put ⟨time, event⟩
  have newer := (toList_write_sublist allowed time).append_left (given depth earlier)
  rw [Tape.put, if_pos (show (tape depth earlier lost).mask.records event.id = true from allowed)]
    at written
  rw [← List.append_assoc] at newer
  -- Whether one more entry gave way is for the tape to say.
  refine ⟨_, ⟨⟨rfl, written.overwritten, ?_, ?_⟩, ?_⟩⟩
  · rw [tape, accepted_write_of_recorded said]
    exact written.within
  · rw [tape, accepted_write_of_recorded said]
    exact written.held
  · rw [accepted_write_of_recorded said]
    exact newer.trans (keeps.ordered.append (.refl _))

theorem write_of_masked (keeps : Keeps depth earlier lost) {event : Event}
    (unsaid : ¬ lastWord? event.id earlier = some true) (time : UInt32) :
    Keeps depth (.write time event :: earlier) lost where
  ends := by
    rw [tape, after_write_of_masked unsaid, accepted_write_of_masked unsaid]
    exact keeps.ends
  ordered := by
    rw [after_write_of_masked unsaid, accepted_write_of_masked unsaid]
    exact keeps.ordered

theorem read (keeps : Keeps depth earlier lost) : Keeps depth (.read :: earlier) lost := by
  cases taken : (after earlier : TraceLog depth).read? with
  | none =>
    obtain ⟨same, gave⟩ := after_read_of_none taken
    constructor
    · rw [tape, same, gave]
      exact keeps.ends
    · rw [same, gave]
      exact keeps.ordered
  | some pair =>
    obtain ⟨entry, rest⟩ := pair
    obtain ⟨left, gave⟩ := after_read_of_some taken
    have split := toList_of_read? taken
    have ordered := keeps.ordered
    have skipped := keeps.ends.skip_of_some taken
    rw [Tape.skip, ← keeps.ends.held, split] at skipped
    rw [split] at ordered
    constructor
    · rw [tape, left, gave, List.length_append]
      exact ⟨rfl, skipped.overwritten, skipped.within, skipped.held⟩
    · rw [left, gave, List.append_assoc]
      exact ordered

theorem clear (keeps : Keeps depth earlier lost) : Keeps depth (.clear :: earlier) 0 where
  ends := keeps.ends.clear
  ordered := toList_clear (after earlier) ▸ List.Sublist.refl _

theorem edit (keeps : Keeps depth earlier lost) (change : TraceMask.Edit) :
    Keeps depth (.edit change :: earlier) lost where
  ends := keeps.ends.editMask change.apply
  ordered := keeps.ordered

end Keeps

theorem exists_keeps (acts : List Act) : ∃ lost, Keeps depth acts lost := by
  induction acts with
  | nil => exact ⟨0, keeps_nil⟩
  | cons act earlier inductionHypothesis =>
    obtain ⟨lost, keeps⟩ := inductionHypothesis
    cases act with
    | write time event =>
      by_cases said : lastWord? event.id earlier = some true
      · exact keeps.write_of_recorded said time
      · exact ⟨lost, keeps.write_of_masked said time⟩
    | read => exact ⟨lost, keeps.read⟩
    | clear => exact ⟨0, keeps.clear⟩
    | edit change => exact ⟨lost, keeps.edit change⟩

/-- After any acts a trace is no longer than it is deep and holds the newest of the entries that were
accepted since the last clear, and with those that were read and those that gave way, as far as a
word can count them, they are as many as were accepted. What was read comes before what is held, in
the order in which it was accepted, and nothing twice. The bit of an id in the mask is set exactly
if the last edit that spoke of the id said that it be recorded, and then a write adds its entry at
the end, for which the first one gives way where the trace is full and nowhere else, while any other
write leaves the trace as it is. A read fails exactly if nothing is held, and otherwise gives the
first entry and leaves the others, the mask and the count. No edit of the mask changes what is
held. -/
theorem keeps_the_newest_accepted (acts : List Act) :
    let log : TraceLog depth := after acts
    log.length ≤ depth.size ∧
      log.toList <:+ accepted acts ∧
      log.length + (given depth acts).length + log.overwritten.toNat ≡
        (accepted acts).length [MOD 2 ^ 32] ∧
      (given depth acts ++ log.toList).Sublist (accepted acts) ∧
      (∀ id : UInt8, (∃ byte, log.mask.bytes[(id / 8).toNat]? = some byte ∧
          byte &&& (1 <<< (id &&& 7)) ≠ 0) ↔ lastWord? id acts = some true) ∧
      (∀ time event, if lastWord? event.id acts = some true then
          (log.write time event).toList =
              (if log.length = depth.size then log.toList.tail else log.toList) ++
                [⟨time, event⟩] ∧
            (log.write time event).overwritten =
              if log.length = depth.size then log.overwritten + 1 else log.overwritten
        else log.write time event = log) ∧
      (match log.toList with
        | [] => log.read? = none
        | entry :: rest => ∃ later, log.read? = some (entry, later) ∧ later.toList = rest ∧
          later.mask = log.mask ∧ later.overwritten = log.overwritten) ∧
      ∀ edit : TraceMask.Edit, (log.editMask edit.apply).toList = log.toList ∧
        (log.editMask edit.apply).overwritten = log.overwritten := by
  intro log
  obtain ⟨lost, ends, ordered⟩ := (exists_keeps acts : ∃ lost, Keeps depth acts lost)
  refine ⟨length_le log, ?_, ?_, ordered, ?_, ?_, ?_, fun _ => ⟨rfl, rfl⟩⟩
  · rw [show log.toList = _ from ends.held]
    exact List.drop_suffix _ _
  · have length : (given depth acts).length + lost + log.length = (accepted acts).length :=
      ends.length_held
    have counted : log.overwritten.toNat = lost % 2 ^ 32 := by
      rw [show log.overwritten = _ from ends.overwritten]
      exact UInt32.toNat_ofNat'
    rw [counted, ← length, Nat.ModEq]
    omega
  · intro id
    rw [TraceMask.bytes_and_bit_ne_zero_iff]
    exact records_after_iff
  · intro time event
    split
    · rename_i said
      exact write_of_recorded (records_after_iff.mpr said) time
    · rename_i unsaid
      exact after_write_of_masked unsaid
  · split
    · rename_i nothing
      exact (read?_eq_none_iff log).mpr nothing
    · rename_i held
      exact read?_of_toList held

/-- Three of four writes are accepted. As there is room for two, what is read after them is the
second. -/
example :
    let written : List Act := [.write 4 { id := 10 }, .write 3 { id := 11 }, .write 2 { id := 10 },
      .write 1 { id := 10 }, .edit (.set 10 true)]
    given ⟨1⟩ (.read :: written) = [⟨2, { id := 10 }⟩] ∧
      (after (.read :: written) : TraceLog ⟨1⟩).toList = [⟨4, { id := 10 }⟩] ∧
      (after (.read :: written) : TraceLog ⟨1⟩).overwritten = 1 := by
  decide

end BusNode.TraceLog
