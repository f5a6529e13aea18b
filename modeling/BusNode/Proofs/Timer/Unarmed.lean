/-
This file proves what a timer takes for its timeout that is not armed: one that was stopped, or was
never started. It holds the cookie of idle timers. No start draws that cookie, so nothing that its
bank has ever published is taken. But the cookie is compared like any other. An event that somebody
else makes with it is taken for a timeout, although there is no start to which it belongs.
-/
import BusNode.Proofs.Timer.Countdown
import Mathlib.Data.List.Induction

namespace BusNode.TimerBank

variable {count : Nat}

/-- Whether no start of a timer came after the last stop, if there was any start at all. -/
def unarmed (index : UInt8) (acts : List Act) : Bool :=
  match (acts.filter fun act => !act.spares index).getLast? with
  | some (.start ..) => false
  | some (.stop _) | some .tick | none => true

/-- An unarmed timer is idle. -/
theorem timer?_run_of_unarmed {index : UInt8} (inside : index.toNat < count) {acts : List Act}
    (rests : unarmed index acts = true) :
    ((idle : TimerBank count).run acts).timer? index = some .idle := by
  induction acts using List.reverseRecOn with
  | nil => exact timer?_idle inside
  | append_singleton acts act inductionHypothesis =>
    rw [run_append]
    rw [unarmed, List.filter_append] at rests
    cases spares : act.spares index with
    | true =>
      rw [List.filter_cons_of_neg (by simp [spares]), List.filter_nil, List.append_nil] at rests
      have next := timer?_act_of_spares spares ((idle : TimerBank count).run acts)
      rw [inductionHypothesis rests] at next
      refine next.trans ?_
      split <;> rfl
    | false =>
      rw [List.filter_cons_of_pos (by simp [spares]), List.filter_nil, List.getLast?_concat]
        at rests
      obtain ⟨ticks, rfl⟩ | rfl := Act.of_not_spares spares
      · cases rests
      · exact timer?_stop_self inside

theorem cookie?_run_of_unarmed {index : UInt8} {acts : List Act}
    (rests : unarmed index acts = true) :
    ((idle : TimerBank count).run acts).cookie? index =
      if index.toNat < count then some idleCookie else none := by
  rw [cookie?]
  split
  · rename_i inside
    rw [timer?_run_of_unarmed inside rests]
    rfl
  · rename_i outside
    rw [timer?_of_outside outside]
    rfl

/-! ### Cookies that are drawn -/

theorem nextCookie_ne_idleCookie (last : UInt16) : nextCookie last ≠ idleCookie := by
  intro idle
  have drawn := toNat_nextCookie_lt last
  rw [idle] at drawn
  exact absurd drawn (by decide)

/-- The timers that run hold cookies that were drawn. -/
structure Issuing (bank : TimerBank count) : Prop where
  named : bank.Named
  drawn : ∀ {index : UInt8} {timer : Timer}, bank.timer? index = some timer →
    timer.isRunning = true → timer.cookie ≠ idleCookie

theorem Issuing.initial : (idle : TimerBank count).Issuing where
  named := named_idle
  drawn {index timer} held running := by
    by_cases inside : index.toNat < count
    · rw [timer?_idle inside] at held
      cases held
      cases running
    · rw [timer?_of_outside inside] at held
      cases held

theorem Issuing.act {bank : TimerBank count} (issuing : bank.Issuing) (act : Act) :
    (bank.act act).2.Issuing where
  named := issuing.named.act act
  drawn {index timer} held running := by
    cases spares : act.spares index with
    | true =>
      rw [timer?_act_of_spares spares] at held
      split at held
      · obtain ⟨before, found, rfl⟩ := Option.map_eq_some_iff.mp held
        rw [Timer.isRunning_iff, Timer.toNat_remaining_tick] at running
        rw [Timer.cookie_tick]
        exact issuing.drawn found (before.isRunning_iff.mpr (by omega))
      · exact issuing.drawn held running
    | false =>
      obtain ⟨ticks, rfl⟩ | rfl := Act.of_not_spares spares
      · obtain ⟨cookie, emissions, started, start, same⟩ | same := bank.act_start index ticks
        · rw [same, timer?_start_self start] at held
          cases held
          rw [(lastCookie_of_start start).1]
          exact nextCookie_ne_idleCookie bank.lastCookie
        · rw [same] at held
          exact issuing.drawn held running
      · by_cases inside : index.toNat < count
        · rw [TimerBank.act, timer?_stop_self inside] at held
          cases held
          cases running
        · rw [timer?_of_outside inside] at held
          cases held

/-- What a bank publishes are timeouts with cookies that were drawn. -/
theorem Issuing.publishes {bank : TimerBank count} (issuing : bank.Issuing) {act : Act}
    {event : Event} (said : .publish event ∈ (bank.act act).1) : event.p16 ≠ idleCookie := by
  cases act with
  | start index ticks =>
    obtain ⟨cookie, emissions, started, start, same⟩ | same := bank.act_start index ticks
    · rw [same] at said
      rw [timeout_of_start start said, (lastCookie_of_start start).1]
      exact nextCookie_ne_idleCookie bank.lastCookie
    · rw [same] at said
      cases said
  | stop index => exact absurd said (not_mem_stop index bank event)
  | tick =>
    obtain ⟨expiring, member, same⟩ := List.mem_map.mp said
    cases same
    obtain ⟨index, timer, held, last, rfl⟩ := mem_expiring issuing.named member
    have one := timer.isExpiring_iff.mp last
    exact issuing.drawn held (timer.isRunning_iff.mpr (by omega))

/-- In every run nothing is published with the cookie of idle timers. -/
theorem Issuing.run {bank : TimerBank count} (issuing : bank.Issuing) {acts : List Act}
    {event : Event} (said : .publish event ∈ bank.said acts) : event.p16 ≠ idleCookie := by
  induction acts generalizing bank with
  | nil => cases said
  | cons act rest inductionHypothesis =>
    rcases List.mem_append.mp said with first | later
    · exact issuing.publishes first
    · exact inductionHypothesis (issuing.act act) later

/-- No start draws the cookie of idle timers. -/
theorem idleCookie_not_mem_drawn (index : UInt8) (acts : List Act) (bank : TimerBank count) :
    idleCookie ∉ bank.drawn index acts := by
  intro drew
  obtain ⟨starts, some, -, same⟩ := mem_drawn drew
  obtain ⟨before, rfl⟩ : ∃ before, starts = before + 1 := ⟨starts - 1, by omega⟩
  rw [Function.iterate_succ_apply'] at same
  exact nextCookie_ne_idleCookie _ same.symm

/-! ### What is taken for a timeout -/

/-- An event is taken for a timeout if it is that of some timer with the cookie that this holds. -/
theorem isCurrent_iff {event : Event} {bank : TimerBank count} :
    bank.isCurrent event = true ↔
      ∃ cookie, bank.cookie? event.p8 = some cookie ∧ event = .timeout event.p8 cookie := by
  rw [isCurrent, Bool.and_eq_true, decide_eq_true_eq, decide_eq_true_eq]
  constructor
  · rintro ⟨timeout, cookie⟩
    refine ⟨event.p16, cookie, ?_⟩
    rw [Event.timeout, ← timeout]
  · rintro ⟨cookie, held, same⟩
    rw [held, same]
    exact ⟨rfl, rfl⟩

/-- A timer that is not armed takes one event for its timeout, that with the cookie of idle timers.
No start draws this cookie, and nothing that was ever published carries it. -/
theorem unarmed_takes_idle_cookie_alone {acts : List Act} {index : UInt8}
    (rests : unarmed index acts = true) :
    (∀ event : Event, event.p8 = index →
      (((idle : TimerBank count).run acts).isCurrent event = true ↔
        index.toNat < count ∧ event = .timeout index idleCookie)) ∧
      (∀ event : Event, event.p8 = index → .publish event ∈ (idle : TimerBank count).said acts →
        ((idle : TimerBank count).run acts).isCurrent event = false) ∧
      ∀ other : UInt8, idleCookie ∉ (idle : TimerBank count).drawn other acts := by
  have taken (event : Event) (own : event.p8 = index) :
      ((idle : TimerBank count).run acts).isCurrent event = true ↔
        index.toNat < count ∧ event = .timeout index idleCookie := by
    rw [isCurrent_iff, own, cookie?_run_of_unarmed rests]
    constructor
    · rintro ⟨cookie, held, same⟩
      obtain ⟨inside, idle⟩ := Option.ite_none_right_eq_some.mp held
      cases idle
      exact ⟨inside, same⟩
    · rintro ⟨inside, same⟩
      exact ⟨idleCookie, if_pos inside, same⟩
  refine ⟨taken, fun event own said => ?_, fun other => idleCookie_not_mem_drawn other acts idle⟩
  rw [Bool.eq_false_iff]
  intro current
  obtain ⟨-, same⟩ := (taken event own).mp current
  exact Issuing.initial.run said (congrArg Event.p16 same)

/-- A timer fires, is started again and stopped. Its timeout is not taken any more, though it was
published. -/
theorem timeout_not_taken_after_stop :
    unarmed 0 [.start 0 0, .start 0 2, .stop 0] = true ∧
      Emission.publish (.timeout 0 1) ∈
        (idle : TimerBank 1).said [.start 0 0, .start 0 2, .stop 0] ∧
      ((idle : TimerBank 1).run [.start 0 0, .start 0 2, .stop 0]).isCurrent (.timeout 0 1) =
        false := by
  have rests : unarmed 0 [.start 0 0, .start 0 2, .stop 0] = true := by decide
  have said : Emission.publish (.timeout 0 1) ∈
      (idle : TimerBank 1).said [.start 0 0, .start 0 2, .stop 0] := by decide
  exact ⟨rests, said, (unarmed_takes_idle_cookie_alone rests).2.1 _ rfl said⟩

/-- A timer that was stopped takes an event with the cookie of idle timers for its timeout. -/
theorem stopped_timer_takes_idle_cookie :
    unarmed 0 [.start 0 2, .stop 0] = true ∧
      ((idle : TimerBank 1).run [.start 0 2, .stop 0]).isCurrent (.timeout 0 idleCookie) = true := by
  decide

end BusNode.TimerBank
