/-
This file proves that the silence that ends a frame suits every rate at which a line can run. It is
one and a half characters of ten bits, computed on words by two divisions that truncate. No product
on the way wraps and no divisor is zero. The divisions lose less than two and a half microseconds,
nothing is added beyond the shortest silence, and a faster line does not wait longer.

The two divisions are bounded for numbers of any size. Words come in only to read off the numbers.
-/
import BusNode.Link.Config
import BusNode.Proofs.Word
import Mathlib.Algebra.Order.Floor.Semifield
import Mathlib.Data.Nat.Cast.Order.Field
import Mathlib.Data.Rat.Floor
import Mathlib.Tactic.NormNum
import Mathlib.Tactic.Ring

namespace BusNode.Link.Config

/-! ### Two divisions -/

section Truncation

variable (number divisor factor parts : ℕ)

/-- A division loses less than one. -/
theorem div_lt_truncated_add_one : (number : ℚ) / divisor < (number / divisor : ℕ) + 1 := by
  rw [← Nat.floor_div_eq_div (K := ℚ) number divisor]
  exact Nat.lt_floor_add_one _

/-- A part of a truncated quotient, truncated once more, is no more than that part of the whole
quotient. -/
theorem truncated_twice_le :
    ((number / divisor * factor / parts : ℕ) : ℚ) ≤ number * factor / parts / divisor :=
  calc
    ((number / divisor * factor / parts : ℕ) : ℚ)
        ≤ (number / divisor * factor : ℕ) / parts := Nat.cast_div_le
    _ = (number / divisor : ℕ) * factor / parts := by rw [Nat.cast_mul]
    _ ≤ number / divisor * factor / parts := by
      gcongr
      exact Nat.cast_div_le
    _ = number * factor / parts / divisor := by ring

/-- It falls short by less than one, and by the part that was taken of what the first division
lost. -/
theorem lt_truncated_twice_add :
    (number : ℚ) * factor / parts / divisor <
      (number / divisor * factor / parts : ℕ) + (factor / parts + 1) :=
  calc
    (number : ℚ) * factor / parts / divisor = number / divisor * factor / parts := by ring
    _ ≤ ((number / divisor : ℕ) + 1) * factor / parts := by
      gcongr
      exact (div_lt_truncated_add_one number divisor).le
    _ = (number / divisor * factor : ℕ) / parts + factor / parts := by
      rw [Nat.cast_mul]
      ring
    _ < (number / divisor * factor / parts : ℕ) + 1 + factor / parts := by
      gcongr
      exact div_lt_truncated_add_one _ parts
    _ = (number / divisor * factor / parts : ℕ) + (factor / parts + 1) := by ring

end Truncation

/-! ### Silences as numbers -/

/-- The silence that ends a frame at a rate in bits a second, with both divisions truncated. -/
def silenceAt (rate : ℕ) : ℕ := max (10000000 / rate * 15 / 10) 750

variable (rate : ℕ)

theorem shortest_le_silenceAt : 750 ≤ silenceAt rate := Nat.le_max_right _ _

/-- A faster line does not wait longer. -/
theorem silenceAt_le_of_le {rate faster : ℕ} (runs : 0 < rate) (le : rate ≤ faster) :
    silenceAt faster ≤ silenceAt rate := by
  have times : 10000000 / faster ≤ 10000000 / rate := Nat.div_le_div_left le runs
  exact max_le_max_right 750 (Nat.div_le_div_right (Nat.mul_le_mul_right 15 times))

/-- One and a half characters of ten bits, as the two divisions come to it. -/
theorem exact_eq : (15000000 : ℚ) / rate = (10000000 : ℕ) * (15 : ℕ) / (10 : ℕ) / rate := by
  norm_num

theorem silenceAt_le_exact : (silenceAt rate : ℚ) ≤ max 750 ((15000000 : ℚ) / rate) := by
  rw [silenceAt, Nat.cast_max, max_comm, exact_eq]
  exact max_le_max_left 750 (truncated_twice_le _ _ _ _)

theorem exact_lt_silenceAt_add : (15000000 : ℚ) / rate < silenceAt rate + 5 / 2 :=
  calc
    (15000000 : ℚ) / rate = (10000000 : ℕ) * (15 : ℕ) / (10 : ℕ) / rate := exact_eq rate
    _ < (10000000 / rate * 15 / 10 : ℕ) + ((15 : ℕ) / (10 : ℕ) + 1) :=
      lt_truncated_twice_add _ _ _ _
    _ = (10000000 / rate * 15 / 10 : ℕ) + 5 / 2 := by norm_num
    _ ≤ silenceAt rate + 5 / 2 := by
      gcongr
      exact Nat.le_max_left _ _

/-! ### Steps that have to have a value -/

/-- The time of a character, if every step on the way to it has a value. -/
def charTime? (config : Config) : Option UInt32 := do
  let bits ← Word.product? 10 1000000
  Word.quotient? bits (max config.baudRate 1)

/-- The silence that ends a frame, if every step on the way to it has a value. -/
def interByteTimeout? (config : Config) : Option UInt32 := do
  let time ← config.charTime?
  let tenths ← Word.product? time 15
  let silence ← Word.quotient? tenths 10
  return max silence shortestSilence

variable (config : Config)

theorem toNat_divisor : (max config.baudRate 1).toNat = max config.baudRate.toNat 1 :=
  Word.toNat_max _ _

theorem toNat_charTime : config.charTime.toNat = 10000000 / max config.baudRate.toNat 1 := by
  rw [charTime, UInt32.toNat_div, toNat_divisor]
  rfl

/-- Fifteen times the time of a character fits into a word, even at one bit a second. -/
theorem charTime_fits : config.charTime.toNat * (15 : UInt32).toNat < UInt32.size :=
  calc
    config.charTime.toNat * 15 ≤ 10000000 * 15 := by
      rw [toNat_charTime]
      exact Nat.mul_le_mul_right 15 (Nat.div_le_self _ _)
    _ < UInt32.size := by decide

theorem charTime?_eq : config.charTime? = some config.charTime := by
  have given : max config.baudRate 1 ≠ 0 := by
    intro zero
    have none : max config.baudRate.toNat 1 = 0 := by
      rw [← toNat_divisor, zero]
      rfl
    exact absurd none (Nat.ne_of_gt (Nat.le_max_right _ 1))
  rw [charTime?, Word.product?_eq (by decide)]
  exact Word.quotient?_eq given

theorem interByteTimeout?_eq : config.interByteTimeout? = some config.interByteTimeout := by
  rw [interByteTimeout?, charTime?_eq]
  simp only [bind, Option.bind, Word.product?_eq config.charTime_fits,
    Word.quotient?_eq (show (10 : UInt32) ≠ 0 by decide)]
  rfl

/-! ### Rates -/

/-- A link whose rate is given as zero waits as if it were one. -/
theorem toNat_interByteTimeout :
    config.interByteTimeout.toNat = silenceAt (max config.baudRate.toNat 1) := by
  rw [interByteTimeout, Word.toNat_max, UInt32.toNat_div,
    Word.toNat_mul_of_fits config.charTime_fits, toNat_charTime]
  rfl

/-- One and a half characters of ten bits in microseconds, with nothing rounded. -/
def exactSilence (config : Config) : ℚ := 15000000 / config.baudRate.toNat

/-- No step on the way to the silence that ends a frame wraps or divides by zero, whatever the rate
is. The silence is never shorter than the shortest one, and a faster line does not wait longer. On a
line that runs it is no longer than the exact silence or the shortest one, and it falls short of the
exact one by less than two and a half microseconds. -/
theorem silence_follows_rate (config : Config) :
    config.charTime? = some config.charTime ∧
      config.interByteTimeout? = some config.interByteTimeout ∧
      750 ≤ config.interByteTimeout.toNat ∧
      (∀ faster : Config, config.baudRate ≤ faster.baudRate →
        faster.interByteTimeout.toNat ≤ config.interByteTimeout.toNat) ∧
      (1 ≤ config.baudRate →
        (config.interByteTimeout.toNat : ℚ) ≤ max 750 config.exactSilence ∧
          config.exactSilence - 5 / 2 < config.interByteTimeout.toNat) := by
  refine ⟨charTime?_eq config, interByteTimeout?_eq config, ?_, fun faster le => ?_,
    fun runs => ?_⟩
  · rw [toNat_interByteTimeout]
    exact shortest_le_silenceAt _
  · rw [toNat_interByteTimeout, toNat_interByteTimeout]
    exact silenceAt_le_of_le (Nat.le_max_right _ 1)
      (max_le_max_right 1 (UInt32.le_iff_toNat_le.mp le))
  · have rate : max config.baudRate.toNat 1 = config.baudRate.toNat :=
      Nat.max_eq_left (UInt32.le_iff_toNat_le.mp runs)
    rw [toNat_interByteTimeout, rate]
    exact ⟨silenceAt_le_exact _, sub_lt_iff_lt_add.mpr (exact_lt_silenceAt_add _)⟩

/-- At two of the usual rates. Both divisions have something to lose at the slower one. -/
theorem silence_at_usual_rates :
    (1 : UInt32) ≤ 9600 ∧ (9600 : UInt32) ≤ 19200 ∧
      ({ baudRate := 9600 } : Config).interByteTimeout? = some 1561 ∧
      ({ baudRate := 9600 } : Config).exactSilence = 1562.5 ∧
      (1561 : ℚ) ≤ max 750 1562.5 ∧ 1562.5 - 5 / 2 < (1561 : ℚ) ∧
      ({ baudRate := 19200 } : Config).interByteTimeout.toNat = 780 ∧ 780 ≤ 1561 := by
  have unrounded : ({ baudRate := 9600 } : Config).exactSilence = 1562.5 := by
    rw [exactSilence, show (9600 : UInt32).toNat = 9600 from rfl]
    norm_num
  have slow : (1 : UInt32) ≤ 9600 := by decide
  have quick : (9600 : UInt32) ≤ 19200 := by decide
  obtain ⟨-, gone, -, slower, bounds⟩ := silence_follows_rate { baudRate := 9600 }
  obtain ⟨most, least⟩ := bounds slow
  rw [unrounded] at most least
  exact ⟨slow, quick, gone, unrounded, most, least, rfl, slower { baudRate := 19200 } quick⟩

end BusNode.Link.Config
