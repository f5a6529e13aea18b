/-
This file proves what a tick has to say. The timeouts come out by place, so the timeout of one timer
stands behind those of the timers before it that run out with the same tick. How many these are
decides whether it still finds room in a queue.

A timeout carries the index of its timer in one byte. So two timers could share an index in a bank
of more than 256, but no start reaches a place that no index names, and no timer runs there.
-/
import BusNode.Timer
import Mathlib.Data.List.Nodup

namespace BusNode.TimerBank

variable {count : Nat}

theorem remaining_of_timer? {index : UInt8} {timer : Timer} {bank : TimerBank count}
    (held : bank.timer? index = some timer) : bank.remaining index = timer.remaining := by
  rw [remaining, held]
  rfl

theorem remaining_congr {index : UInt8} {bank other : TimerBank count}
    (same : bank.timer? index = other.timer? index) : bank.remaining index = other.remaining index := by
  rw [remaining, remaining, same]

/-- A timer that has ticks left has one less with a tick. -/
theorem toNat_ticks_sub_one {ticks : UInt16} (left : ticks ≠ 0) :
    (ticks - 1).toNat + 1 = ticks.toNat := by
  have positive : ticks.toNat ≠ 0 := fun none => left (UInt16.toNat_inj.mp none)
  have small := ticks.toNat_lt
  rw [UInt16.toNat_sub, UInt16.toNat_one]
  omega

/-- A timer that has ticks left is there. -/
theorem timer?_of_remaining {index : UInt8} {bank : TimerBank count}
    (counting : bank.remaining index ≠ 0) :
    ∃ cookie, bank.timer? index = some { remaining := bank.remaining index, cookie } := by
  cases held : bank.timer? index with
  | none =>
    rw [remaining, held] at counting
    exact absurd rfl counting
  | some timer =>
    rw [remaining_of_timer? held]
    exact ⟨timer.cookie, rfl⟩

/-- A timer that counts keeps its cookie with a tick. -/
theorem timer?_tick_of_remaining {index : UInt8} {bank : TimerBank count}
    (counting : bank.remaining index ≠ 0) :
    ∃ cookie, bank.timer? index = some { remaining := bank.remaining index, cookie } ∧
      bank.tick.2.timer? index = some { remaining := bank.remaining index - 1, cookie } := by
  obtain ⟨cookie, held⟩ := timer?_of_remaining counting
  refine ⟨cookie, held, ?_⟩
  rw [timer?_tick, held]
  exact congrArg some (if_pos (decide_eq_true counting))

theorem toNat_remaining_tick {index : UInt8} {bank : TimerBank count}
    (counting : bank.remaining index ≠ 0) :
    (bank.tick.2.remaining index).toNat + 1 = (bank.remaining index).toNat := by
  obtain ⟨cookie, -, ticked⟩ := timer?_tick_of_remaining counting
  rw [remaining_of_timer? ticked]
  exact toNat_ticks_sub_one counting

/-- A timer that has run out stays as it is with a tick. -/
theorem remaining_tick_of_zero {index : UInt8} {bank : TimerBank count}
    (done : bank.remaining index = 0) : bank.tick.2.remaining index = 0 := by
  rw [remaining, timer?_tick]
  cases held : bank.timer? index with
  | none => rfl
  | some timer =>
    rw [remaining_of_timer? held] at done
    simp [Timer.tick, Timer.isRunning, done]

/-! ### Places without an index -/

/-- Only timers run that an index names. -/
def Named (bank : TimerBank count) : Prop :=
  ∀ (place : Nat) (inside : place < count), 256 ≤ place → bank.timers[place].isRunning = false

theorem named_idle : (idle : TimerBank count).Named := by
  intro place inside _
  simp [idle, Timer.isRunning, Timer.idle]

namespace Named

variable {bank : TimerBank count}

theorem start {index : UInt8} {ticks cookie : UInt16} {emissions : List Emission}
    {started : TimerBank count} (named : bank.Named)
    (start : bank.start? index ticks = some (cookie, emissions, started)) : started.Named := by
  intro place inside beyond
  have small := index.toNat_lt
  unfold start? at start
  split at start
  · cases start
    rw [Vector.getElem_set_ne _ _ (by omega)]
    exact named place inside beyond
  · cases start

theorem stop (named : bank.Named) (index : UInt8) : (bank.stop index).2.Named := by
  intro place inside beyond
  have small := index.toNat_lt
  unfold TimerBank.stop
  split
  · rw [Vector.getElem_set_ne _ _ (by omega)]
    exact named place inside beyond
  · exact named place inside beyond

theorem tick (named : bank.Named) : bank.tick.2.Named := by
  intro place inside beyond
  have still := named place inside beyond
  simp only [TimerBank.tick, Vector.getElem_map, Timer.tick, still]
  simpa using still

end Named

/-! ### What a start and a stop publish -/

theorem emissions_of_start {index : UInt8} {ticks cookie : UInt16} {emissions : List Emission}
    {bank started : TimerBank count}
    (start : bank.start? index ticks = some (cookie, emissions, started)) :
    emissions = startEmissions index ticks cookie := by
  unfold start? at start
  split at start <;> cases start
  rfl

/-- A start publishes nothing but the timeout of a timer that is given no ticks. -/
theorem timeout_of_start {index : UInt8} {ticks cookie : UInt16} {emissions : List Emission}
    {bank started : TimerBank count} {event : Event}
    (start : bank.start? index ticks = some (cookie, emissions, started))
    (said : .publish event ∈ emissions) : event = .timeout index cookie := by
  rw [emissions_of_start start, startEmissions] at said
  split at said <;> simp_all

/-- A stop publishes nothing. -/
theorem not_mem_stop (index : UInt8) (bank : TimerBank count) (event : Event) :
    .publish event ∉ (bank.stop index).1 := by
  unfold stop
  split
  · dsimp only
    split <;> simp
  · exact List.not_mem_nil

/-! ### The timeouts of a tick -/

/-- How many timers before an index run out with the next tick. -/
def ahead (index : UInt8) (bank : TimerBank count) : Nat :=
  (bank.timers.toList.take index.toNat).countP Timer.isExpiring

/-- The timeouts of the timers that run out with the next tick, when the first timer is at the given
place. -/
def timeouts (start : Nat) (timers : List Timer) : List Event :=
  (timers.zipIdx start).filterMap fun (timer, place) =>
    if timer.isExpiring then some (.timeout (UInt8.ofNat place) timer.cookie) else none

theorem expiring_eq (bank : TimerBank count) : bank.expiring = timeouts 0 bank.timers.toList := rfl

theorem timeouts_append (start : Nat) (before after : List Timer) :
    timeouts start (before ++ after) =
      timeouts start before ++ timeouts (start + before.length) after := by
  rw [timeouts, List.zipIdx_append, List.filterMap_append]
  rfl

theorem timeouts_cons {timer : Timer} (last : timer.isExpiring = true) (start : Nat)
    (after : List Timer) :
    timeouts start (timer :: after) =
      .timeout (UInt8.ofNat start) timer.cookie :: timeouts (start + 1) after := by
  rw [timeouts, List.zipIdx_cons, List.filterMap_cons_some (by exact if_pos last)]
  rfl

theorem length_timeouts (start : Nat) (timers : List Timer) :
    (timeouts start timers).length = timers.countP Timer.isExpiring := by
  have each : timers.countP Timer.isExpiring =
      (timers.zipIdx start).countP (Timer.isExpiring ∘ Prod.fst) := by
    rw [← List.countP_map, List.zipIdx_map_fst]
  rw [timeouts, List.length_filterMap_eq_countP, each]
  refine List.countP_congr fun pair _ => ?_
  simp

theorem mem_timeouts {start : Nat} {timers : List Timer} {event : Event}
    (said : event ∈ timeouts start timers) :
    ∃ place timer, start ≤ place ∧ timers[place - start]? = some timer ∧
      timer.isExpiring = true ∧ event = .timeout (UInt8.ofNat place) timer.cookie := by
  obtain ⟨⟨timer, place⟩, held, said⟩ := List.mem_filterMap.mp said
  obtain ⟨last, same⟩ := Option.ite_none_right_eq_some.mp said
  obtain ⟨after, there⟩ := List.mk_mem_zipIdx_iff_le_and_getElem?_sub.mp held
  exact ⟨place, timer, after, there, last, (Option.some.inj same).symm⟩

/-- No timeout is null. -/
theorem isNil_of_mem_expiring {bank : TimerBank count} {event : Event}
    (said : event ∈ bank.expiring) : event.isNil = false := by
  obtain ⟨place, timer, -, -, -, rfl⟩ := mem_timeouts said
  rfl

/-- A timer runs out only at a place that has an index. -/
theorem place_lt {bank : TimerBank count} (named : bank.Named) {place : Nat} {timer : Timer}
    (held : bank.timers.toList[place]? = some timer) (last : timer.isExpiring = true) :
    place < 256 := by
  rw [Vector.getElem?_toList] at held
  obtain ⟨inside, rfl⟩ := Vector.getElem?_eq_some_iff.mp held
  refine Nat.lt_of_not_le fun beyond => ?_
  have still := named place inside beyond
  simp_all [Timer.isRunning, Timer.isExpiring]

/-- A tick says nothing but timeouts of timers that run out. -/
theorem mem_expiring {bank : TimerBank count} (named : bank.Named) {event : Event}
    (said : event ∈ bank.expiring) :
    ∃ index timer, bank.timer? index = some timer ∧ timer.isExpiring = true ∧
      event = .timeout index timer.cookie := by
  obtain ⟨place, timer, -, held, last, same⟩ := mem_timeouts said
  refine ⟨UInt8.ofNat place, timer, ?_, last, same⟩
  rw [Nat.sub_zero] at held
  rw [timer?, UInt8.toNat_ofNat_of_lt' (place_lt named held last), ← Vector.getElem?_toList]
  exact held

/-- Every timer that runs out says so, whatever the places of the others. -/
theorem timeout_mem_expiring {bank : TimerBank count} {index : UInt8} {timer : Timer}
    (held : bank.timer? index = some timer) (last : timer.isExpiring = true) :
    .timeout index timer.cookie ∈ bank.expiring := by
  refine List.mem_filterMap.mpr ⟨(timer, index.toNat), ?_, ?_⟩
  · rw [List.mem_zipIdx_iff_getElem?, Vector.getElem?_toList]
    exact held
  · have said : (if timer.isExpiring then
        some (Event.timeout (UInt8.ofNat index.toNat) timer.cookie) else none) =
          some (.timeout index timer.cookie) := by
      rw [if_pos last, UInt8.ofNat_toNat]
    exact said

/-- The timeout of a timer stands behind those of the timers before it, and no other timeout has its
index. -/
theorem expiring_split {bank : TimerBank count} (named : bank.Named) {index : UInt8} {timer : Timer}
    (held : bank.timer? index = some timer) (last : timer.isExpiring = true) :
    ∃ before after, bank.expiring = before ++ .timeout index timer.cookie :: after ∧
      before.length = bank.ahead index ∧ ∀ event ∈ before ++ after, event.p8 ≠ index := by
  have there : bank.timers.toList[index.toNat]? = some timer := by
    rw [Vector.getElem?_toList]
    exact held
  obtain ⟨inside, same⟩ := List.getElem?_eq_some_iff.mp there
  have parts : bank.timers.toList = bank.timers.toList.take index.toNat ++
      timer :: bank.timers.toList.drop (index.toNat + 1) := by
    rw [← same, List.getElem_cons_drop, List.take_append_drop]
  have shorter : (bank.timers.toList.take index.toNat).length = index.toNat :=
    List.length_take_of_le (Nat.le_of_lt inside)
  have split : bank.expiring = timeouts 0 (bank.timers.toList.take index.toNat) ++
      .timeout index timer.cookie ::
        timeouts (index.toNat + 1) (bank.timers.toList.drop (index.toNat + 1)) := by
    refine (expiring_eq bank).trans ((congrArg (timeouts 0) parts).trans ?_)
    rw [timeouts_append, shorter, Nat.zero_add, timeouts_cons last, UInt8.ofNat_toNat]
  -- A place other than the one of the timer has another index, as long as it has one.
  have apart : ∀ place other, bank.timers.toList[place]? = some other → other.isExpiring = true →
      place ≠ index.toNat → UInt8.ofNat place ≠ index := by
    rintro place other found last different rfl
    exact different (UInt8.toNat_ofNat_of_lt' (place_lt named found last)).symm
  refine ⟨_, _, split, length_timeouts 0 _, fun event said => ?_⟩
  rcases List.mem_append.mp said with before | after
  · obtain ⟨place, other, -, held, last, rfl⟩ := mem_timeouts before
    rw [Nat.sub_zero, List.getElem?_take] at held
    obtain ⟨early, held⟩ := Option.ite_none_right_eq_some.mp held
    exact apart place other held last (Nat.ne_of_lt early)
  · obtain ⟨place, other, late, held, last, rfl⟩ := mem_timeouts after
    rw [List.getElem?_drop, Nat.add_sub_cancel' late] at held
    exact apart place other held last (Nat.ne_of_gt late)

/-- The timeouts of a tick all have different indices. -/
theorem nodup_expiring {bank : TimerBank count} (named : bank.Named) :
    (bank.expiring.map Event.p8).Nodup := by
  refine List.nodup_iff_count_le_one.mpr fun index => ?_
  by_cases among : index ∈ bank.expiring.map Event.p8
  · obtain ⟨event, said, own⟩ := List.mem_map.mp among
    obtain ⟨place, timer, held, last, rfl⟩ := mem_expiring named said
    obtain rfl : place = index := own
    obtain ⟨before, after, split, -, apart⟩ := expiring_split named held last
    have none {events : List Event} (other : ∀ event ∈ events, event.p8 ≠ place) :
        (events.map Event.p8).count place = 0 := by
      refine List.count_eq_zero_of_not_mem fun among => ?_
      obtain ⟨event, member, same⟩ := List.mem_map.mp among
      exact other event member same
    have single : ((Event.timeout place timer.cookie :: after).map Event.p8).count place =
        (after.map Event.p8).count place + 1 := List.count_cons_self
    obtain ⟨early, late⟩ := List.forall_mem_append.mp apart
    have front := none early
    have back := none late
    rw [split, List.map_append, List.count_append, single]
    omega
  · rw [List.count_eq_zero_of_not_mem among]
    exact Nat.zero_le 1

end BusNode.TimerBank
