/-
This file counts the cookies that starts draw. They go round through every value but the one that
idle timers hold. So no start draws the cookie of an idle timer, and two starts draw the same cookie
only if at least a whole round lies between them.
-/
import BusNode.Timer
import Mathlib.Logic.Function.Iterate

namespace BusNode.TimerBank

variable {count : Nat}

/-- How many cookies a round has. -/
def round : Nat := 65535

/-- The cookie that was drawn last when so many timers have been started. -/
def cookieAfter (starts : Nat) : UInt16 := nextCookie^[starts] 0

theorem cookieAfter_succ (starts : Nat) :
    cookieAfter (starts + 1) = nextCookie (cookieAfter starts) :=
  Function.iterate_succ_apply' nextCookie starts 0

/-- A start draws the next cookie. -/
theorem lastCookie_of_start {index : UInt8} {ticks cookie : UInt16} {emissions : List Emission}
    {bank started : TimerBank count}
    (start : bank.start? index ticks = some (cookie, emissions, started)) :
    cookie = nextCookie bank.lastCookie ∧ started.lastCookie = cookie := by
  unfold start? at start
  split at start <;> cases start
  exact ⟨rfl, rfl⟩

theorem lastCookie_stop (index : UInt8) (bank : TimerBank count) :
    (bank.stop index).2.lastCookie = bank.lastCookie := by
  unfold stop
  split <;> rfl

theorem cookie?_tick (index : UInt8) (bank : TimerBank count) :
    bank.tick.2.cookie? index = bank.cookie? index := by
  have same : Timer.cookie ∘ Timer.tick = Timer.cookie := by
    funext timer
    unfold Function.comp Timer.tick
    split <;> rfl
  rw [cookie?, timer?_tick, Option.map_map, same, cookie?]

theorem toNat_nextCookie {last : UInt16} (drawn : last.toNat < round) :
    (nextCookie last).toNat = (last.toNat + 1) % round := by
  have successor : (last + 1).toNat = last.toNat + 1 := by
    rw [UInt16.toNat_add, UInt16.toNat_one]
    exact Nat.mod_eq_of_lt (Nat.add_lt_add_right drawn 1)
  rw [nextCookie]
  split
  · rename_i idle
    rw [← successor, idle]
    rfl
  · rename_i other
    have inside : last.toNat + 1 ≠ round := fun full =>
      other (UInt16.toNat_inj.mp (successor.trans full))
    rw [successor, Nat.mod_eq_of_lt (Nat.lt_of_le_of_ne drawn inside)]

theorem toNat_nextCookie_lt (last : UInt16) : (nextCookie last).toNat < round := by
  rw [nextCookie]
  split
  · decide
  · rename_i other
    exact Nat.lt_of_le_of_ne (Nat.le_of_lt_succ (last + 1).toNat_lt) fun full =>
      other (UInt16.toNat_inj.mp full)

theorem toNat_iterate_nextCookie {last : UInt16} (drawn : last.toNat < round) (starts : Nat) :
    (nextCookie^[starts] last).toNat = (last.toNat + starts) % round := by
  induction starts with
  | zero => exact (Nat.mod_eq_of_lt drawn).symm
  | succ starts inductionHypothesis =>
    have inside : (nextCookie^[starts] last).toNat < round := by
      rw [inductionHypothesis]
      exact Nat.mod_lt _ (by decide)
    rw [Function.iterate_succ_apply', toNat_nextCookie inside, inductionHypothesis,
      Nat.mod_add_mod, Nat.add_assoc]

theorem toNat_cookieAfter (starts : Nat) : (cookieAfter starts).toNat = starts % round :=
  (toNat_iterate_nextCookie (by decide) starts).trans
    (congrArg (· % round) (Nat.zero_add starts))

/-- No start draws the cookie of an idle timer. -/
theorem cookieAfter_ne_idleCookie (starts : Nat) : cookieAfter starts ≠ idleCookie := by
  intro idle
  have small : starts % round < round := Nat.mod_lt _ (by decide)
  rw [← toNat_cookieAfter, idle] at small
  exact absurd small (by decide)

/-- Within a round no cookie is drawn a second time. -/
theorem iterate_nextCookie_ne {last : UInt16} (drawn : last.toNat < round) {starts : Nat}
    (some : 0 < starts) (few : starts < round) : nextCookie^[starts] last ≠ last := by
  intro same
  have congruent : (last.toNat + starts) % round = last.toNat % round := by
    rw [← toNat_iterate_nextCookie drawn, same, Nat.mod_eq_of_lt drawn]
  have multiple : (last.toNat + starts - last.toNat) % round = 0 :=
    Nat.sub_mod_eq_zero_of_mod_eq congruent
  rw [Nat.add_sub_cancel_left, Nat.mod_eq_of_lt few] at multiple
  exact Nat.ne_of_gt some multiple

/-- Within a round no cookie is drawn twice. -/
theorem eq_of_cookieAfter_eq {early late : Nat} (order : early ≤ late)
    (near : late - early < round) (same : cookieAfter early = cookieAfter late) : early = late := by
  have drawn : (cookieAfter early).toNat < round := by
    rw [toNat_cookieAfter]
    exact Nat.mod_lt _ (by decide)
  have again : nextCookie^[late - early] (cookieAfter early) = cookieAfter early := by
    rw [cookieAfter, ← Function.iterate_add_apply, Nat.sub_add_cancel order]
    exact same.symm
  by_contra apart
  exact iterate_nextCookie_ne drawn (by omega) near again

end BusNode.TimerBank
