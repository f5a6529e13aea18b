/-
This file holds the ticks that a time is given against the rate at which timers are served. A tick
is counted as a whole number of milliseconds. Where the rate divides a thousand it is that long, and
a time is given all the ticks that fit into it. At any other rate the ticks that are served are
longer than those that are counted. So no timer runs out a whole tick too soon, but with each tick
that it counts it falls behind by what the division leaves over.

Lengths are compared without fractions: a second has a thousand milliseconds, and as many ticks as
the rate says.
-/
import BusNode.Proofs.Timer.Countdown
import BusNode.Proofs.Word
import BusNode.Reactor.Config
import Mathlib.Algebra.Order.Group.Nat

namespace BusNode.Reactor.Config

variable {config : Config}

/-! ### What a time is given -/

/-- A rate that is accepted is one at which timers can be served. -/
theorem tickRate_of_check (accepted : config.check = .ok ()) :
    0 < config.tickRate.toNat ∧ config.tickRate.toNat ≤ 1000 := by
  unfold check at accepted
  split at accepted
  · cases accepted
  · rename_i fine
    obtain ⟨given, low⟩ := not_or.mp fine
    refine ⟨Nat.pos_of_ne_zero fun zero => given (UInt32.toNat_inj.mp zero), ?_⟩
    exact Nat.le_of_not_lt fun above => low (UInt32.lt_iff_toNat_lt.mpr above)

theorem toNat_tickMs (accepted : config.check = .ok ()) :
    config.tickMs.toNat = 1000 / config.tickRate.toNat := by
  have positive := (tickRate_of_check accepted).1
  rw [tickMs, UInt32.toNat_div, Word.toNat_max]
  exact congrArg (1000 / ·) (Nat.max_eq_left positive)

/-- A time is given as many ticks as fit into it as they are counted, and no more than a timer
counts. -/
theorem toNat_ticksIn (accepted : config.check = .ok ()) (time : UInt32) :
    (config.ticksIn time).toNat = min 65535 (time.toNat / (1000 / config.tickRate.toNat)) := by
  obtain ⟨positive, low⟩ := tickRate_of_check accepted
  have length : (max config.tickMs 1).toNat = 1000 / config.tickRate.toNat := by
    rw [Word.toNat_max, toNat_tickMs accepted]
    exact Nat.max_eq_left (Nat.div_pos low positive)
  rw [ticksIn, UInt32.toNat_toUInt16, Word.toNat_min, UInt32.toNat_div, length, Nat.min_comm]
  exact Nat.mod_eq_of_lt (Nat.lt_succ_of_le (Nat.min_le_left _ _))

/-! ### Ticks that are counted and ticks that are served -/

/-- The lengths of the ticks that are counted fall short of a second by what the division leaves
over. -/
theorem counted_add_left_over (rate : Nat) : 1000 / rate * rate + 1000 % rate = 1000 := by
  rw [Nat.mul_comm]
  exact Nat.div_add_mod 1000 rate

/-- A time is given at least the ticks that are served in it. -/
theorem served_le_counted {rate : Nat} (positive : 0 < rate) (low : rate ≤ 1000) (time : Nat) :
    time * rate / 1000 ≤ time / (1000 / rate) := by
  rw [Nat.le_div_iff_mul_le (Nat.div_pos low positive)]
  refine Nat.le_of_mul_le_mul_right ?_ positive
  calc
    time * rate / 1000 * (1000 / rate) * rate = time * rate / 1000 * (1000 / rate * rate) :=
      Nat.mul_assoc _ _ _
    _ ≤ time * rate / 1000 * 1000 := Nat.mul_le_mul_left _ (Nat.div_mul_le_self 1000 rate)
    _ ≤ time * rate := Nat.div_mul_le_self _ _

/-- Ticks that fit into a time as they are counted last longer than it, as they are served, by what
the division leaves over for each of them. -/
theorem served_le_left_over {rate time ticks : Nat} (fit : ticks * (1000 / rate) ≤ time) :
    ticks * 1000 ≤ time * rate + ticks * (1000 % rate) :=
  calc
    ticks * 1000 = ticks * (1000 / rate * rate + 1000 % rate) := by rw [counted_add_left_over]
    _ = ticks * (1000 / rate) * rate + ticks * (1000 % rate) := by
      rw [Nat.mul_add, Nat.mul_assoc]
    _ ≤ time * rate + ticks * (1000 % rate) :=
      Nat.add_le_add_right (Nat.mul_le_mul_right rate fit) _

/-- If the rate divides a thousand, the ticks that are counted are the ones that are served. -/
theorem counted_eq_served {rate : Nat} (exact : rate ∣ 1000) (time : Nat) :
    time / (1000 / rate) = time * rate / 1000 := by
  have whole : 1000 / rate * rate = 1000 := Nat.div_mul_cancel exact
  have positive : 0 < rate := Nat.pos_of_dvd_of_pos exact (by decide)
  calc
    time / (1000 / rate) = time * rate / (1000 / rate * rate) :=
      (Nat.mul_div_mul_right time (1000 / rate) positive).symm
    _ = time * rate / 1000 := by rw [whole]

/-- A tick that is counted has the length of one that is served only if the rate divides a thousand.
-/
theorem dvd_of_served {rate : Nat} (served : 1 ≤ 1000 / rate * rate / 1000) : rate ∣ 1000 := by
  have whole : 1 * 1000 ≤ 1000 / rate * rate := Nat.mul_le_of_le_div 1000 1 _ served
  have left := counted_add_left_over rate
  exact Nat.dvd_of_mod_eq_zero (by omega)

/-- At a rate that is accepted, every time is given the ticks that are served in it or more, as far
as a timer counts. The last of them may come after the time, by what the division of a second leaves
over for each of them. A timer that is started with them and left alone counts just these. No time
is given more ticks than are served in it if and only if the rate divides a thousand. -/
theorem ticks_fit_iff_rate_divides (accepted : config.check = .ok ()) :
    (∀ time : UInt32, min 65535 (time.toNat * config.tickRate.toNat / 1000) ≤
      (config.ticksIn time).toNat) ∧
      (∀ time : UInt32, (config.ticksIn time).toNat * 1000 ≤
        time.toNat * config.tickRate.toNat +
          (config.ticksIn time).toNat * (1000 % config.tickRate.toNat)) ∧
      (∀ {count : Nat} (bank started : TimerBank count) (index : UInt8) (time : UInt32)
          (cookie : UInt16) (emissions : List Emission) (acts : List TimerBank.Act),
        bank.start? index (config.ticksIn time) = some (cookie, emissions, started) →
          (∀ act ∈ acts, act.spares index = true) →
            ((started.run acts).isDone index = true ↔
              (config.ticksIn time).toNat ≤ TimerBank.ticksIn acts)) ∧
      ((∀ time : UInt32, (config.ticksIn time).toNat =
          min 65535 (time.toNat * config.tickRate.toNat / 1000)) ↔
        config.tickRate.toNat ∣ 1000) := by
  obtain ⟨positive, low⟩ := tickRate_of_check accepted
  refine ⟨fun time => ?_, fun time => ?_, ?_, fun served => ?_, fun exact time => ?_⟩
  · rw [toNat_ticksIn accepted]
    exact min_le_min_left _ (served_le_counted positive low _)
  · refine served_le_left_over ?_
    rw [toNat_ticksIn accepted]
    exact (Nat.mul_le_mul_right _ (Nat.min_le_right _ _)).trans (Nat.div_mul_le_self _ _)
  · intro count bank started index time cookie emissions acts start spared
    exact TimerBank.isDone_run_iff (TimerBank.timer?_start_self start) spared
  · -- The length of one counted tick is the time that tells the two apart.
    have one := served config.tickMs
    rw [toNat_ticksIn accepted, toNat_tickMs accepted,
      Nat.div_self (Nat.div_pos low positive)] at one
    exact dvd_of_served (by omega)
  · rw [toNat_ticksIn accepted, counted_eq_served exact]

/-- Timers are served three hundred times a second. A second is given thirty-three ticks too many,
and a timer that is started with them runs for as long. -/
theorem second_at_three_hundred :
    (Config.mk 300).check = .ok () ∧ (Config.mk 300).ticksIn 1000 = 333 ∧
      ((Config.mk 300).ticksIn 1000).toNat * 1000 ≤
        1000 * 300 + ((Config.mk 300).ticksIn 1000).toNat * 100 ∧
      ∃ cookie emissions started,
        (TimerBank.idle : TimerBank 1).start? 0 ((Config.mk 300).ticksIn 1000) =
            some (cookie, emissions, started) ∧
          (started.run (List.replicate 332 .tick)).isDone 0 = false ∧
          (started.run (List.replicate 333 .tick)).isDone 0 = true := by
  have accepted : (Config.mk 300).check = .ok () := by decide
  have given : (Config.mk 300).ticksIn 1000 = 333 := by decide
  obtain ⟨-, late, counts, -⟩ := ticks_fit_iff_rate_divides accepted
  have inside : (0 : UInt8).toNat < 1 := by decide
  obtain ⟨started, start⟩ := TimerBank.start?_of_inside inside
    ((Config.mk 300).ticksIn 1000) .idle
  have runs (served : Nat) :
      (started.run (List.replicate served .tick)).isDone 0 = true ↔ 333 ≤ served := by
    refine (counts _ started 0 1000 _ _ _ start fun act member => ?_).trans ?_
    · rw [List.eq_of_mem_replicate member]
      rfl
    · rw [given, TimerBank.ticksIn, List.count_replicate_self]
      rfl
  refine ⟨accepted, given, late 1000, _, _, started, start, ?_, (runs 333).mpr (by decide)⟩
  exact Bool.eq_false_iff.mpr fun done => absurd ((runs 332).mp done) (by decide)

/-- A timer that is served six hundred times a second is given a thousand ticks for a second. -/
theorem second_at_six_hundred_is_too_long :
    (Config.mk 600).check = .ok () ∧
      (Config.mk 600).ticksIn 1000 ≠ UInt16.ofNat (min 65535 (1000 * 600 / 1000)) := by
  decide

end BusNode.Reactor.Config
