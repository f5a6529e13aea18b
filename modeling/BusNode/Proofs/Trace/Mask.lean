/-
This file proves what becomes of the mask of a trace when it is edited. Each edit speaks of some ids
and is silent about the others, and an id is recorded exactly if the last edit that spoke of it said
so. As every id has a bit of its own in the bytes of the mask, the ids of one byte do not disturb
each other.
-/
import BusNode.Trace.Mask

namespace BusNode.TraceMask

/-! ### Edits -/

/-- A change to a mask. -/
inductive Edit where
  | set (id : UInt8) (record : Bool)
  | setAll (ids : List UInt8) (record : Bool)
  | enableBelow (count : UInt8)
  /-- Records nothing from here on. -/
  | clear
  deriving DecidableEq

namespace Edit

def apply (edit : Edit) (mask : TraceMask) : TraceMask :=
  match edit with
  | set id record => mask.set id record
  | setAll ids record => mask.setAll ids record
  | enableBelow count => mask.enableBelow count
  | clear => .none

/-- What an edit says of an id, if it speaks of it. -/
def says? (id : UInt8) : Edit → Option Bool
  | set other record => if id = other then some record else .none
  | setAll ids record => if id ∈ ids then some record else .none
  | enableBelow count => if 0 < id ∧ id < count then some true else .none
  | clear => some false

end Edit

theorem records_setAll (id : UInt8) (ids : List UInt8) (record : Bool) (mask : TraceMask) :
    (mask.setAll ids record).records id = if id ∈ ids then record else mask.records id := by
  induction ids generalizing mask with
  | nil => simp [setAll]
  | cons first rest inductionHypothesis =>
    rw [setAll, List.foldl_cons, ← setAll, inductionHypothesis]
    by_cases same : id = first
    · subst same
      simp
    · simp [same, records_set_other same]

theorem mem_idsBelow {id count : UInt8} : id ∈ idsBelow count ↔ 0 < id ∧ id < count := by
  have small := count.toNat_lt
  simp only [idsBelow, List.mem_map, List.mem_range'_1, UInt8.lt_iff_toNat_lt]
  constructor
  · rintro ⟨number, bounds, rfl⟩
    rw [UInt8.toNat_ofNat_of_lt' (by change number < 256; omega)]
    change 0 < number ∧ number < count.toNat
    omega
  · rintro ⟨positive, below⟩
    change 0 < id.toNat at positive
    exact ⟨id.toNat, by omega, UInt8.ofNat_toNat⟩

/-- An edit decides the ids that it speaks of, and leaves the others alone. -/
theorem records_apply (id : UInt8) (edit : Edit) (mask : TraceMask) :
    (edit.apply mask).records id = (edit.says? id).getD (mask.records id) := by
  cases edit with
  | set other record =>
    by_cases same : id = other
    · subst same
      simp [Edit.apply, Edit.says?]
    · simp [Edit.apply, Edit.says?, same, records_set_other same]
  | setAll ids record =>
    rw [Edit.apply, records_setAll, Edit.says?]
    split <;> rfl
  | enableBelow count =>
    simp only [Edit.apply, enableBelow, records_setAll, Edit.says?, mem_idsBelow]
    split <;> rfl
  | clear => exact records_none id

/-! ### The mask as bytes -/

theorem getElem?_bytes (id : UInt8) (mask : TraceMask) :
    mask.bytes[(id / 8).toNat]? = some (mask.octet id) := by
  rw [bytes, Vector.getElem?_toList]
  exact Vector.getElem?_eq_getElem (place id).isLt

/-- In the bytes of a mask an id is the bit of its last three binary digits in the byte of the
others. -/
theorem bytes_and_bit_ne_zero_iff (id : UInt8) (mask : TraceMask) :
    (∃ byte, mask.bytes[(id / 8).toNat]? = some byte ∧ byte &&& (1 <<< (id &&& 7)) ≠ 0) ↔
      mask.records id = true := by
  rw [getElem?_bytes, records, bne_iff_ne]
  simp only [Option.some.injEq, exists_eq_left']
  rfl

end BusNode.TraceMask
