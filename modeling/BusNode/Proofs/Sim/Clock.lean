/-
This file says what a clock that is driven by hand shows, and when. Every reading moves the clock by
its step, and nothing else does that a node asks of its world. So the effects on a world say where
its clock stands after each of them, and with it the true time of every reading.

A reading shows true time twice truncated: down to milliseconds, and to the low thirty-two bits of
them. The difference of two readings still is the true time between them, in whole milliseconds, as
long as that fits.
-/
import BusNode.Proofs.Effect
import BusNode.Sim.Bench
import Mathlib.Algebra.Group.Nat.Defs

namespace BusNode

/-! ### Readings of the clock -/

/-- Whether an effect reads the clock. -/
def Effect.timed : Effect → Bool
  | .micros _ | .millis _ => true
  | _ => false

/-- How often effects read the clock. -/
def readings (effects : List Effect) : Nat := effects.countP Effect.timed

@[simp] theorem readings_append (effects later : List Effect) :
    readings (effects ++ later) = readings effects + readings later :=
  List.countP_append

theorem readings_cons (effect : Effect) (later : List Effect) :
    readings (effect :: later) = readings later + effect.timed.toNat := by
  cases timed : effect.timed <;> simp [readings, timed]

namespace Sim

namespace HandClock

/-- The clock after effects, if nobody else moves it. -/
def after (clock : HandClock) (effects : List Effect) : HandClock :=
  effects.foldl (fun clock effect =>
    if effect.timed then clock.advance clock.step.toUInt64 else clock) clock

@[simp] theorem after_nil (clock : HandClock) : clock.after [] = clock := rfl

theorem after_cons (clock : HandClock) (effect : Effect) (later : List Effect) :
    clock.after (effect :: later) =
      (if effect.timed then clock.advance clock.step.toUInt64 else clock).after later :=
  rfl

@[simp] theorem step_after (clock : HandClock) (effects : List Effect) :
    (clock.after effects).step = clock.step := by
  induction effects generalizing clock with
  | nil => rfl
  | cons effect rest inductionHypothesis =>
    rw [after_cons, inductionHypothesis]
    split <;> rfl

/-- True time goes on by one step for each reading, and wraps. -/
theorem toNat_now_after (clock : HandClock) (effects : List Effect) :
    (clock.after effects).now.toNat =
      (clock.now.toNat + readings effects * clock.step.toNat) % 2 ^ 64 := by
  induction effects generalizing clock with
  | nil => simp [readings, Nat.mod_eq_of_lt clock.now.toNat_lt]
  | cons effect rest inductionHypothesis =>
    rw [after_cons, inductionHypothesis, readings_cons]
    cases effect.timed with
    | false => rfl
    | true =>
      rw [if_pos rfl, advance, UInt64.toNat_add, UInt32.toNat_toUInt64, Nat.mod_add_mod,
        Bool.toNat_true, Nat.add_mul, Nat.one_mul, Nat.add_assoc, Nat.add_comm clock.step.toNat]

/-! ### Time between readings -/

/-- What a reading in milliseconds shows. -/
def shown (clock : HandClock) : UInt32 := (clock.now / 1000).toUInt32

theorem toNat_shown (clock : HandClock) :
    clock.shown.toNat = clock.now.toNat / 1000 % 2 ^ 32 := by
  rw [shown, UInt64.toNat_toUInt32, UInt64.toNat_div]
  rfl

/-- The milliseconds that a reading finds to have passed since an earlier one. -/
def passed (clock : HandClock) (since : UInt32) : Nat := (clock.shown - since).toNat

theorem elapsed_shown (clock : HandClock) (since limit : UInt32) :
    Clock.elapsed clock.shown since limit = decide (limit.toNat < clock.passed since) :=
  decide_eq_decide.mpr UInt32.lt_iff_toNat_lt

/-- Two readings differ by the whole milliseconds between them, however far the first is from the
wrap of the counter. -/
theorem passed_since_shown {clock start : HandClock}
    (later : start.now.toNat / 1000 ≤ clock.now.toNat / 1000)
    (within : clock.now.toNat / 1000 - start.now.toNat / 1000 < 2 ^ 32) :
    clock.passed start.shown = clock.now.toNat / 1000 - start.now.toNat / 1000 := by
  rw [passed, UInt32.toNat_sub, toNat_shown, toNat_shown]
  omega

/-- What has passed grows by the milliseconds that the clock goes on, up to the wrap. -/
theorem passed_of_later {clock later : HandClock} (since : UInt32)
    (before : clock.now.toNat / 1000 ≤ later.now.toNat / 1000) :
    later.passed since =
      (clock.passed since + (later.now.toNat / 1000 - clock.now.toNat / 1000)) % 2 ^ 32 := by
  rw [passed, passed, UInt32.toNat_sub, UInt32.toNat_sub, toNat_shown, toNat_shown]
  have small := since.toNat_lt
  omega

end HandClock

/-! ### The clock of a bench -/

section Bench

variable {Bus : Type} [Line Bus] {bench next : Bench Bus} {effect : Effect}
  {effects later : List Effect}

/-- Only readings move the clock. -/
theorem clock_of_answers (answers : Answers bench effect next) :
    next.clock = bench.clock.after [effect] := by
  cases answers <;> rfl

theorem clock_of_leads (leads : Leads bench effects next) :
    next.clock = bench.clock.after effects := by
  induction leads with
  | done => rfl
  | step answers _ inductionHypothesis =>
    rw [inductionHypothesis, clock_of_answers answers]
    rfl

/-- A reading in milliseconds shows the time at which it is taken. -/
theorem shown_of_leads {now : UInt32} (leads : Leads bench (.millis now :: later) next) :
    now = bench.clock.shown := by
  cases leads with
  | step answers _ =>
    cases answers
    rfl

theorem shown_after_of_leads {now : UInt32}
    (leads : Leads bench (effects ++ .millis now :: later) next) :
    now = (bench.clock.after effects).shown := by
  obtain ⟨middle, first, second⟩ := leads.split
  rw [← clock_of_leads first]
  exact shown_of_leads second

end Bench

end Sim

end BusNode
