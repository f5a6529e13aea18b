/-
This file defines how many elements a ring may be made for. A ring counts with one byte and finds
the place of an element as the remainder of its count, so the depth has to divide 256 and leave half
of the range free: it is a power of two and at most 128.
-/

namespace BusNode

/-- How many elements a ring has room for, as the exponent of a power of two. -/
structure Depth where
  exponent : Fin 8
  deriving DecidableEq, Repr

namespace Depth

/-- The number of places. -/
def size (depth : Depth) : Nat := Nat.pow 2 depth.exponent.val

/-- The depth with the given number of places, if that is a power of two and at most 128. -/
def ofSize? (places : Nat) : Option Depth :=
  ((List.finRange 8).map Depth.mk).find? fun depth => depth.size = places

theorem size_pos (depth : Depth) : 0 < depth.size := Nat.two_pow_pos _

theorem size_le (depth : Depth) : depth.size ≤ 128 :=
  Nat.pow_le_pow_right (by decide) (Nat.le_of_lt_succ depth.exponent.isLt)

/-- Places repeat with the count of a byte. -/
theorem size_dvd (depth : Depth) : depth.size ∣ 256 :=
  Nat.pow_dvd_pow 2 (Nat.le_of_lt depth.exponent.isLt)

end Depth

end BusNode
