/-
This file relates words of thirty-two bits to the numbers that they stand for. Their products wrap
and their quotients by zero are zero. Here both are also written so that they have no value where
that happens, and a computation that has one has gone through without it.
-/

namespace BusNode.Word

/-! ### Bounds -/

theorem toNat_max (word other : UInt32) : (max word other).toNat = max word.toNat other.toNat := by
  rw [show max word other = if word ≤ other then other else word from rfl]
  split
  · rename_i small
    exact (Nat.max_eq_right (UInt32.le_iff_toNat_le.mp small)).symm
  · rename_i large
    exact (Nat.max_eq_left (Nat.le_of_not_le (mt UInt32.le_iff_toNat_le.mpr large))).symm

theorem toNat_min (word other : UInt32) : (min word other).toNat = min word.toNat other.toNat := by
  rw [show min word other = if word ≤ other then word else other from rfl]
  split
  · rename_i small
    exact (Nat.min_eq_left (UInt32.le_iff_toNat_le.mp small)).symm
  · rename_i large
    exact (Nat.min_eq_right (Nat.le_of_not_le (mt UInt32.le_iff_toNat_le.mpr large))).symm

/-! ### Products and quotients that have to be there -/

/-- A product. It has no value if it takes more than thirty-two bits. -/
def product? (word other : UInt32) : Option UInt32 :=
  if word.toNat * other.toNat < UInt32.size then some (word * other) else none

/-- A quotient. It has no value if the divisor is zero. -/
def quotient? (word divisor : UInt32) : Option UInt32 :=
  if divisor = 0 then none else some (word / divisor)

theorem product?_eq {word other : UInt32} (fits : word.toNat * other.toNat < UInt32.size) :
    product? word other = some (word * other) := if_pos fits

theorem quotient?_eq {word divisor : UInt32} (given : divisor ≠ 0) :
    quotient? word divisor = some (word / divisor) := if_neg given

/-- A product that fits is the product of the numbers. -/
theorem toNat_mul_of_fits {word other : UInt32}
    (fits : word.toNat * other.toNat < UInt32.size) :
    (word * other).toNat = word.toNat * other.toNat := by
  rw [UInt32.toNat_mul]
  exact Nat.mod_eq_of_lt fits

end BusNode.Word
