/-
This file defines the mask that says which events a trace records. There is one bit for each of the
256 ids, eight to a byte.
-/
import BusNode.Event.Basic

namespace BusNode

/-- Which ids a trace records. -/
structure TraceMask where
  octets : Vector UInt8 32
  deriving DecidableEq

namespace TraceMask

/-- The mask that records nothing. -/
def none : TraceMask := { octets := Vector.replicate 32 0 }

instance : Inhabited TraceMask := ⟨none⟩

/-- The byte that holds the bit of an id. -/
def place (id : UInt8) : Fin 32 :=
  ⟨(id / 8).toNat, by
    rw [UInt8.toNat_div]
    exact Nat.div_lt_of_lt_mul id.toNat_lt⟩

/-- The bit of an id in its byte. -/
def bit (id : UInt8) : UInt8 := 1 <<< (id &&& 7)

/-- The byte of the mask that holds the bit of an id. -/
def octet (id : UInt8) (mask : TraceMask) : UInt8 := mask.octets[place id]

/-- Whether an id is recorded. -/
def records (id : UInt8) (mask : TraceMask) : Bool := mask.octet id &&& bit id != 0

/-- A byte with the bit of an id set or cleared, and its other bits as they were. -/
def mark (id : UInt8) (record : Bool) (octet : UInt8) : UInt8 :=
  if record then octet ||| bit id else octet &&& ~~~ bit id

/-- Says of one id whether it is recorded. -/
def set (id : UInt8) (record : Bool) (mask : TraceMask) : TraceMask :=
  { octets := mask.octets.set (place id).val (mark id record (mask.octet id)) (place id).isLt }

/-- Says the same of every id in a list. -/
def setAll (ids : List UInt8) (record : Bool) (mask : TraceMask) : TraceMask :=
  ids.foldl (fun mask id => mask.set id record) mask

/-- The ids of the library that come with every tick or start of a timer and can fill a trace
alone. -/
def highRate : List UInt8 := [Event.timerId, Event.timerArmId]

/-- The ids after the null event and below a count. -/
def idsBelow (count : UInt8) : List UInt8 := (List.range' 1 (count.toNat - 1)).map UInt8.ofNat

/-- Records every id after the null event and below a count. -/
def enableBelow (count : UInt8) (mask : TraceMask) : TraceMask := mask.setAll (idsBelow count) true

/-- The mask as bytes. -/
def bytes (mask : TraceMask) : List UInt8 := mask.octets.toList

/-! ### The bits of a byte -/

theorem toBitVec_bit (id : UInt8) : (bit id).toBitVec = BitVec.twoPow 8 (id.toNat % 8) := by
  have last : ((id &&& 7).toBitVec % 8).toNat = id.toNat % 8 := by
    have digits : (id &&& 7).toNat = id.toNat % 8 := by
      rw [UInt8.toNat_and]
      exact Nat.and_two_pow_sub_one_eq_mod id.toNat 3
    rw [BitVec.toNat_umod, UInt8.toNat_toBitVec, digits]
    exact Nat.mod_mod _ _
  rw [bit, UInt8.toBitVec_shiftLeft, BitVec.shiftLeft_eq', last, BitVec.twoPow_eq]
  rfl

theorem and_bit_ne_zero (id octet : UInt8) :
    (octet &&& bit id != 0) = octet.toBitVec.getLsbD (id.toNat % 8) := by
  have place : id.toNat % 8 < 8 := Nat.mod_lt _ (by decide)
  have positive : BitVec.twoPow 8 (id.toNat % 8) ≠ 0#8 := by
    intro zero
    have set := congrArg (BitVec.getLsbD · (id.toNat % 8)) zero
    simp [place] at set
  rw [Bool.eq_iff_iff, bne_iff_ne, ne_eq, ← UInt8.toBitVec_inj, UInt8.toBitVec_and, toBitVec_bit,
    BitVec.and_twoPow]
  cases octet.toBitVec.getLsbD (id.toNat % 8) <;> simp [positive]

/-- Marking a byte decides the bit of the id and no other. -/
theorem getLsbD_mark (id : UInt8) (record : Bool) (octet : UInt8) {index : Nat}
    (inside : index < 8) :
    (mark id record octet).toBitVec.getLsbD index =
      if index = id.toNat % 8 then record else octet.toBitVec.getLsbD index := by
  by_cases own : index = id.toNat % 8
  · subst own
    cases record <;> simp [mark, toBitVec_bit, inside]
  · have clear : (bit id).toBitVec[index] = false := by
      rw [toBitVec_bit, BitVec.getElem_twoPow, decide_eq_false own]
    cases record <;> simp [mark, clear, own, inside]

/-! ### What an edit changes -/

theorem records_eq_getLsbD (id : UInt8) (mask : TraceMask) :
    mask.records id = (mask.octet id).toBitVec.getLsbD (id.toNat % 8) := and_bit_ne_zero id _

theorem octet_set (id other : UInt8) (record : Bool) (mask : TraceMask) :
    (mask.set id record).octet other =
      if place id = place other then mark id record (mask.octet id) else mask.octet other := by
  rw [octet, set, Fin.getElem_fin, Vector.getElem_set]
  simp only [Fin.ext_iff]
  rfl

/-- Two ids whose bits are the same bit of the same byte are the same. -/
theorem eq_of_place_eq {id other : UInt8} (octet : place id = place other)
    (bit : id.toNat % 8 = other.toNat % 8) : id = other := by
  have quotients : (id / 8).toNat = (other / 8).toNat := by
    simpa only [place, Fin.mk.injEq] using octet
  rw [UInt8.toNat_div, UInt8.toNat_div] at quotients
  rw [← UInt8.toNat_inj, ← Nat.div_add_mod id.toNat 8, ← Nat.div_add_mod other.toNat 8, bit]
  exact congrArg (8 * · + _) quotients

theorem records_none (id : UInt8) : none.records id = false := by
  have zero : none.octet id = 0 := Vector.getElem_replicate _
  rw [records_eq_getLsbD, zero]
  exact BitVec.getLsbD_zero

/-- An id is recorded if the last edit of it said so. -/
@[simp] theorem records_set_self (id : UInt8) (record : Bool) (mask : TraceMask) :
    (mask.set id record).records id = record := by
  rw [records_eq_getLsbD, octet_set, if_pos rfl,
    getLsbD_mark id record _ (Nat.mod_lt _ (by decide)), if_pos rfl]

/-- An edit leaves the other ids alone, those of the same byte too. -/
theorem records_set_other {id other : UInt8} (different : other ≠ id) (record : Bool)
    (mask : TraceMask) : (mask.set id record).records other = mask.records other := by
  rw [records_eq_getLsbD, records_eq_getLsbD, octet_set]
  split
  · rename_i same
    have apart : other.toNat % 8 ≠ id.toNat % 8 := fun bit =>
      different (eq_of_place_eq same.symm bit)
    have shared : mask.octet id = mask.octet other :=
      congrArg (fun place : Fin 32 => mask.octets[place]) same
    rw [getLsbD_mark id record _ (Nat.mod_lt _ (by decide)), if_neg apart, shared]
  · rfl

end TraceMask

end BusNode
