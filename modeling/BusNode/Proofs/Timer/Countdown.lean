/-
This file proves that a timer that was started fires once and on time, whatever is done with the
other timers of its bank. Its timeout is published with the start if it is given no ticks, and
otherwise with the last of the ticks that it is given. A stop or another start takes it back: all
that is published of the timer from then on comes from later starts.

Both follow from what an act can do. An act that spares a timer takes its timeout, if it is due at
all, from what is pending to what is published. Any other act takes back what is pending, and leaves
or publishes the timeout of a start that it makes.
-/
import BusNode.Node
import BusNode.Proofs.Reactor.Unattended
import BusNode.Sim.Bench
import BusNode.Sim.Wire
import BusNode.Supervisor

namespace BusNode

namespace Timer

/-! ### Ticks of one timer -/

theorem isExpiring_iff (timer : Timer) :
    timer.isExpiring = true ↔ timer.remaining.toNat = 1 :=
  decide_eq_true_iff.trans UInt16.toNat_inj.symm

theorem isRunning_iff (timer : Timer) : timer.isRunning = true ↔ 0 < timer.remaining.toNat :=
  decide_eq_true_iff.trans
    ((not_congr UInt16.toNat_inj.symm).trans Nat.pos_iff_ne_zero.symm)

theorem cookie_tick (timer : Timer) : timer.tick.cookie = timer.cookie := by
  unfold tick
  split <;> rfl

theorem toNat_remaining_tick (timer : Timer) :
    timer.tick.remaining.toNat = timer.remaining.toNat - 1 := by
  unfold tick
  split
  · rename_i running
    have left : timer.remaining ≠ 0 := of_decide_eq_true running
    have less := TimerBank.toNat_ticks_sub_one left
    exact (Nat.sub_eq_of_eq_add less.symm).symm
  · rename_i done
    rw [isRunning_iff] at done
    omega

end Timer

namespace TimerBank

variable {count : Nat}

/-! ### A timer that is left alone -/

section Spared

variable {index : UInt8} {timer : Timer} {bank : TimerBank count} {acts : List Act}

theorem ticksIn_cons (act : Act) (rest : List Act) :
    ticksIn (act :: rest) = ticksIn rest + if act = .tick then 1 else 0 := by
  rw [ticksIn, List.count_cons, ticksIn]
  simp only [beq_iff_eq]

/-- A timer that is left alone keeps its cookie, and has as many ticks less as came. -/
theorem timer?_run_of_spares (held : bank.timer? index = some timer)
    (spared : ∀ act ∈ acts, act.spares index = true) :
    ∃ later, (bank.run acts).timer? index = some later ∧
      later.remaining.toNat = timer.remaining.toNat - ticksIn acts ∧
        later.cookie = timer.cookie := by
  induction acts generalizing bank timer with
  | nil => exact ⟨timer, held, rfl, rfl⟩
  | cons act rest inductionHypothesis =>
    obtain ⟨spares, others⟩ := List.forall_mem_cons.mp spared
    have next := timer?_act_of_spares spares bank
    rw [held] at next
    rw [run_cons, ticksIn_cons]
    by_cases ticks : act = .tick
    · rw [if_pos ticks] at next ⊢
      obtain ⟨later, found, left, cookie⟩ := inductionHypothesis next others
      rw [Timer.toNat_remaining_tick] at left
      exact ⟨later, found, by omega, cookie.trans timer.cookie_tick⟩
    · rw [if_neg ticks] at next ⊢
      exact inductionHypothesis next others

/-- A timer that is left alone has run out once as many ticks came as it had left. -/
theorem isDone_run_iff (held : bank.timer? index = some timer)
    (spared : ∀ act ∈ acts, act.spares index = true) :
    (bank.run acts).isDone index = true ↔ timer.remaining.toNat ≤ ticksIn acts := by
  obtain ⟨later, found, left, -⟩ := timer?_run_of_spares held spared
  rw [isDone, remaining_of_timer? found, decide_eq_true_eq, ← UInt16.toNat_inj, left]
  exact Nat.sub_eq_zero_iff_le

/-- A timer that is left alone fires once if as many ticks come as it has left, and else not at all.
-/
theorem alarms_said_of_spares (named : bank.Named) (held : bank.timer? index = some timer)
    (spared : ∀ act ∈ acts, act.spares index = true) :
    alarms index (bank.said acts) =
      if 0 < timer.remaining.toNat ∧ timer.remaining.toNat ≤ ticksIn acts then
        [.timeout index timer.cookie] else [] := by
  induction acts generalizing bank timer with
  | nil => exact (if_neg fun ⟨left, due⟩ => absurd left (Nat.not_lt.mpr due)).symm
  | cons act rest inductionHypothesis =>
    obtain ⟨spares, others⟩ := List.forall_mem_cons.mp spared
    have next := timer?_act_of_spares spares bank
    rw [held] at next
    rw [said, alarms_append, alarms_act_of_spares spares named held, ticksIn_cons]
    by_cases ticks : act = .tick
    · rw [if_pos ticks] at next ⊢
      rw [inductionHypothesis (named.act act) next others, Timer.toNat_remaining_tick,
        Timer.cookie_tick]
      by_cases last : timer.isExpiring = true
      · have one := timer.isExpiring_iff.mp last
        rw [if_pos ⟨ticks, last⟩, if_neg (by omega), if_pos (by omega)]
        rfl
      · have more := mt timer.isExpiring_iff.mpr last
        rw [if_neg fun both => last both.2, List.nil_append]
        exact if_congr (by omega) rfl rfl
    · rw [if_neg ticks] at next ⊢
      rw [inductionHypothesis (named.act act) next others, if_neg fun both => ticks both.1]
      rfl

end Spared

/-! ### Timeouts that are taken back -/

/-- The cookies that an act draws for a timer. -/
def drawnBy (index : UInt8) : Act → TimerBank count → List UInt16
  | .start other ticks, bank =>
    if other = index then ((bank.start? other ticks).map Prod.fst).toList else []
  | .stop _, _ | .tick, _ => []

/-- The cookies that the starts of a timer draw, one after another. -/
def drawn (index : UInt8) : List Act → TimerBank count → List UInt16
  | [], _ => []
  | act :: rest, bank => bank.drawnBy index act ++ (bank.act act).2.drawn index rest

/-- The cookie of the timeout that a timer has yet to publish. -/
def pending (index : UInt8) (bank : TimerBank count) : List UInt16 :=
  ((bank.timer? index).filter Timer.isRunning).toList.map Timer.cookie

theorem pending_eq {index : UInt8} {timer : Timer} {bank : TimerBank count}
    (held : bank.timer? index = some timer) :
    bank.pending index = if timer.isRunning then [timer.cookie] else [] := by
  rw [pending, held, Option.filter_some]
  split <;> rfl

theorem drawnBy_of_spares {index : UInt8} {act : Act} (spares : act.spares index = true)
    (bank : TimerBank count) : bank.drawnBy index act = [] := by
  cases act with
  | start other ticks => exact if_neg (of_decide_eq_true spares)
  | stop _ | tick => rfl

/-- With an act that spares a timer, what it has yet to publish is published or stays pending. -/
theorem pending_act_of_spares {index : UInt8} {act : Act} {timer : Timer}
    {bank : TimerBank count} (spares : act.spares index = true) (named : bank.Named)
    (held : bank.timer? index = some timer) :
    alarms index (bank.act act).1 ++ ((bank.act act).2.pending index).map (.timeout index) =
      (bank.pending index).map (.timeout index) := by
  have next := timer?_act_of_spares spares bank
  rw [alarms_act_of_spares spares named held, pending_eq held]
  by_cases ticks : act = .tick
  · rw [if_pos ticks, held] at next
    rw [pending_eq next, Timer.cookie_tick]
    simp only [ticks, true_and, timer.isExpiring_iff, Timer.isRunning_iff,
      Timer.toNat_remaining_tick]
    by_cases last : timer.remaining.toNat = 1
    · rw [if_pos last, if_neg (by omega), if_pos (by omega)]
      rfl
    · rw [if_neg last, List.nil_append]
      exact congrArg _ (if_congr (by omega) rfl rfl)
  · rw [if_neg ticks, held] at next
    rw [if_neg fun both => ticks both.1, pending_eq next]
    rfl

/-- An act that starts or stops a timer takes back what it had yet to publish. What is published or
pending then comes from the start. -/
theorem pending_act_of_not_spares {index : UInt8} {act : Act} (inside : index.toNat < count)
    (touches : act.spares index = false) (bank : TimerBank count) :
    alarms index (bank.act act).1 ++ ((bank.act act).2.pending index).map (.timeout index) =
      (bank.drawnBy index act).map (.timeout index) := by
  obtain ⟨ticks, rfl⟩ | rfl := Act.of_not_spares touches
  · obtain ⟨started, start⟩ := start?_of_inside inside ticks bank
    rw [act_of_start start, alarms_startEmissions, pending_eq (timer?_start_self start), drawnBy,
      if_pos rfl, start]
    by_cases none : ticks = 0 <;> simp [none, Timer.isRunning]
  · have silent : alarms index (bank.stop index).1 = [] :=
      alarms_eq_nil fun event said => absurd said (not_mem_stop index bank event)
    have idle : (bank.stop index).2.pending index = [] := pending_eq (timer?_stop_self inside)
    rw [act, silent, idle]
    rfl

/-- Every timeout of a timer that is published or pending at the end of a run was pending at its
beginning, or comes from a start of its own. -/
theorem alarms_said_sublist {index : UInt8} (inside : index.toNat < count)
    {bank : TimerBank count} (named : bank.Named) (acts : List Act) :
    (alarms index (bank.said acts)).Sublist
      ((bank.pending index ++ bank.drawn index acts).map (.timeout index)) := by
  induction acts generalizing bank with
  | nil => exact List.nil_sublist _
  | cons act rest inductionHypothesis =>
    have later := (inductionHypothesis (named.act act)).append_left
      (alarms index (bank.act act).1)
    rw [List.map_append, ← List.append_assoc] at later
    rw [said, alarms_append, drawn]
    refine later.trans ?_
    cases spares : act.spares index with
    | true =>
      obtain ⟨timer, held⟩ := timer?_of_inside inside bank
      rw [pending_act_of_spares spares named held, drawnBy_of_spares spares, List.nil_append,
        List.map_append]
    | false =>
      rw [pending_act_of_not_spares inside spares, ← List.map_append]
      exact (List.sublist_append_right _ _).map _

/-- Once a timer was started again or stopped, every timeout of it comes from a start of its own
that was not made before. -/
theorem alarms_said_of_not_spares {index : UInt8} (inside : index.toNat < count)
    {bank : TimerBank count} (named : bank.Named) {act : Act} (touches : act.spares index = false)
    (later : List Act) :
    (alarms index (bank.said (act :: later))).Sublist
      ((bank.drawn index (act :: later)).map (.timeout index)) := by
  have rest := (alarms_said_sublist inside (named.act act) later).append_left
    (alarms index (bank.act act).1)
  rw [List.map_append, ← List.append_assoc, pending_act_of_not_spares inside touches,
    ← List.map_append] at rest
  rw [said, alarms_append]
  exact rest

/-! ### Cookies that are drawn later -/

/-- Whether an act starts a timer. -/
def Act.isStart : Act → Bool
  | .start .. => true
  | .stop _ | .tick => false

theorem lastCookie_act (act : Act) (bank : TimerBank count) :
    ∃ starts, starts ≤ (if act.isStart then 1 else 0) ∧
      (bank.act act).2.lastCookie = nextCookie^[starts] bank.lastCookie := by
  cases act with
  | start index ticks =>
    obtain ⟨cookie, emissions, started, start, same⟩ | same := bank.act_start index ticks
    · refine ⟨1, Nat.le_refl 1, ?_⟩
      obtain ⟨rfl, last⟩ := lastCookie_of_start start
      rw [same]
      exact last
    · refine ⟨0, Nat.zero_le 1, ?_⟩
      rw [same]
      rfl
  | stop index => exact ⟨0, Nat.le_refl 0, lastCookie_stop index bank⟩
  | tick => exact ⟨0, Nat.le_refl 0, rfl⟩

theorem lastCookie_run (acts : List Act) (bank : TimerBank count) :
    ∃ starts, starts ≤ acts.countP Act.isStart ∧
      (bank.run acts).lastCookie = nextCookie^[starts] bank.lastCookie := by
  induction acts generalizing bank with
  | nil => exact ⟨0, Nat.le_refl 0, rfl⟩
  | cons act rest inductionHypothesis =>
    obtain ⟨first, fewFirst, drew⟩ := lastCookie_act act bank
    obtain ⟨others, fewOthers, last⟩ := inductionHypothesis (bank.act act).2
    rw [drew, ← Function.iterate_add_apply] at last
    rw [List.countP_cons]
    exact ⟨others + first, Nat.add_le_add fewOthers fewFirst, last⟩

/-- A cookie that a start draws is as many cookies further as there were starts. -/
theorem mem_drawn {index : UInt8} {cookie : UInt16} {acts : List Act} {bank : TimerBank count}
    (drew : cookie ∈ bank.drawn index acts) :
    ∃ starts, 0 < starts ∧ starts ≤ acts.countP Act.isStart ∧
      cookie = nextCookie^[starts] bank.lastCookie := by
  induction acts generalizing bank with
  | nil => cases drew
  | cons act rest inductionHypothesis =>
    rw [List.countP_cons]
    rcases List.mem_append.mp drew with first | later
    · cases act with
      | start other ticks =>
        refine ⟨1, Nat.one_pos, Nat.le_add_left 1 _, ?_⟩
        rw [drawnBy] at first
        split at first
        · obtain ⟨⟨drawn, said, started⟩, start, rfl⟩ :=
            Option.map_eq_some_iff.mp (Option.mem_toList.mp first)
          exact (lastCookie_of_start start).1
        · cases first
      | stop _ | tick => cases first
    · obtain ⟨others, some, few, same⟩ := inductionHypothesis later
      obtain ⟨early, fewEarly, drawn⟩ := lastCookie_act act bank
      rw [drawn, ← Function.iterate_add_apply] at same
      exact ⟨others + early, Nat.add_pos_left some early, Nat.add_le_add few fewEarly, same⟩

/-! ### Every start -/

open Reactor (Move Session)

/-- What a timer does that was started, as long as no act has stopped it or started it again. It
fires with the start itself if it was given no ticks. -/
structure OnTime (index : UInt8) (ticks cookie : UInt16) (emissions : List Emission)
    (started : TimerBank count) (acts : List Act) : Prop where
  /-- The timeout was published once, if as many ticks came as the timer was given. -/
  once : alarms index (emissions ++ started.said acts) =
    if ticks.toNat ≤ ticksIn acts then [.timeout index cookie] else []
  /-- It is published with the last of these ticks and with nothing else. -/
  prompt : ∀ act : Act, act.spares index = true →
    alarms index ((started.run acts).act act).1 =
      if act = .tick ∧ ticksIn acts + 1 = ticks.toNat then [.timeout index cookie] else []
  remaining : ((started.run acts).remaining index).toNat = ticks.toNat - ticksIn acts
  cookie : (started.run acts).cookie? index = some cookie

/-- What a timer does from the act on that stopped it or started it again. -/
structure TakenBack (index : UInt8) (cookie : UInt16) (bank : TimerBank count)
    (since : List Act) (starts : Nat) : Prop where
  /-- All timeouts that are published come from starts of their own. -/
  renewed : (alarms index (bank.said since)).Sublist
    ((bank.drawn index since).map (.timeout index))
  /-- The one that was taken back is not among them, before cookies come round again. -/
  gone : starts < round → .timeout index cookie ∉ alarms index (bank.said since)

section Started

variable {index : UInt8} {ticks cookie : UInt16} {emissions : List Emission}
  {bank started : TimerBank count}

theorem onTime_of_start (named : started.Named)
    (start : bank.start? index ticks = some (cookie, emissions, started)) {acts : List Act}
    (spared : ∀ act ∈ acts, act.spares index = true) :
    OnTime index ticks cookie emissions started acts := by
  have held := timer?_start_self start
  obtain ⟨timer, found, left, same⟩ := timer?_run_of_spares held spared
  refine ⟨?_, fun act spares => ?_, ?_, ?_⟩
  · rw [alarms_append, emissions_of_start start, alarms_startEmissions,
      alarms_said_of_spares named held spared]
    by_cases none : ticks = 0
    · rw [none]
      rfl
    · have some : 0 < ticks.toNat :=
        Nat.pos_of_ne_zero fun zero => none (UInt16.toNat_inj.mp zero)
      rw [if_neg none, List.nil_append]
      exact if_congr (and_iff_right some) rfl rfl
  · have due : timer.isExpiring = true ↔ ticksIn acts + 1 = ticks.toNat := by
      have left : timer.remaining.toNat = ticks.toNat - ticksIn acts := left
      rw [timer.isExpiring_iff]
      omega
    rw [alarms_act_of_spares spares (named.run acts) found, same]
    exact if_congr (and_congr_right fun _ => due) rfl rfl
  · rw [remaining_of_timer? found, left]
  · rw [cookie?, found]
    exact congrArg some same

theorem takenBack_of_start (inside : index.toNat < count) (named : started.Named)
    (start : bank.start? index ticks = some (cookie, emissions, started)) (acts : List Act)
    {act : Act} (touches : act.spares index = false) (later : List Act) :
    TakenBack index cookie (started.run acts) (act :: later)
      ((acts ++ act :: later).countP Act.isStart) := by
  have renewed := alarms_said_of_not_spares inside (named.run acts) touches later
  refine ⟨renewed, fun few fired => ?_⟩
  obtain ⟨first, last⟩ := lastCookie_of_start start
  obtain ⟨again, drew, same⟩ := List.mem_map.mp (renewed.subset fired)
  obtain rfl : again = cookie := congrArg Event.p16 same
  -- The later start is at least one and at most as many cookies further as there were starts.
  obtain ⟨early, fewEarly, between⟩ := lastCookie_run acts started
  obtain ⟨others, some, fewOthers, drawn⟩ := mem_drawn drew
  rw [between, ← Function.iterate_add_apply, last] at drawn
  rw [List.countP_append] at few
  refine iterate_nextCookie_ne ?_ (Nat.add_pos_left some early) (by omega) drawn.symm
  rw [first]
  exact toNat_nextCookie_lt bank.lastCookie

end Started

/-- Whatever state a bank is in, a timer of it that is started fires once and on time, unless it is
stopped or started again before, and then not at all. What is done with other timers makes no
difference, and neither does what becomes of the events that are published: in every reactor the
timers go on as they do alone. -/
theorem fires_once_on_time (small : count ≤ 256) {index : UInt8} (inside : index.toNat < count)
    (ticks : UInt16) (bank : TimerBank count) :
    ∃ cookie emissions started, bank.start? index ticks = some (cookie, emissions, started) ∧
      (∀ acts : List Act, (∀ act ∈ acts, act.spares index = true) →
        OnTime index ticks cookie emissions started acts ∧
          ∀ (act : Act) (later : List Act), act.spares index = false →
            TakenBack index cookie (started.run acts) (act :: later)
              ((acts ++ act :: later).countP Act.isStart)) ∧
      ∀ {Body World : Type} {queueDepth traceDepth : Depth} [Machine Body] [Clock World]
        [Journal World] (session : Session Body World queueDepth traceDepth count)
        (moves : List (Move World)), session.agents = [] → session.reactor.timers = started →
          (session.run moves).reactor.timers = started.run (moves.filterMap Move.timerAct?) := by
  obtain ⟨started, start⟩ := start?_of_inside inside ticks bank
  have named := named_of_small small started
  refine ⟨_, _, started, start, fun acts spared => ⟨onTime_of_start named start spared, ?_⟩, ?_⟩
  · exact fun act later touches => takenBack_of_start inside named start acts touches later
  · intro Body World queueDepth traceDepth _ _ _ session moves alone same
    have timers := session.timers_run_of_alone alone moves
    rw [← same]
    exact timers

/-- A node of the usual size, on which no machine works. -/
def unattended (timers : TimerBank Node.timerCount) :
    Session Supervisor (Sim.Bench Sim.Wire) Node.queueDepth Node.traceDepth Node.timerCount :=
  { agents := []
    reactor := { queue := .empty, trace := .empty, timers, config := {} }
    world := { line := {} } }

/-- The second timer of a node fires while the first one is started and the third one is stopped,
and once more when it is started again. It does so on a node whose queue is full. -/
theorem second_timer_fires_on_time :
    Node.timerCount ≤ 256 ∧ (1 : UInt8).toNat < Node.timerCount ∧
      ∃ cookie emissions started,
        (idle : TimerBank Node.timerCount).start? 1 2 = some (cookie, emissions, started) ∧
          OnTime 1 2 cookie emissions started [.start 0 1, .tick, .stop 2, .tick] ∧
          TakenBack 1 cookie (started.run [.start 0 1, .tick, .stop 2, .tick]) [.start 1 0, .tick]
            2 ∧
          ((unattended started).run
              (List.replicate 9 (.publish .back { id := 11 }) ++ [.tick, .tick])).reactor.timers =
            started.run [.tick, .tick] := by
  obtain ⟨cookie, emissions, started, start, fires, follows⟩ :=
    fires_once_on_time (by decide : Node.timerCount ≤ 256)
      (by decide : (1 : UInt8).toNat < Node.timerCount) 2 idle
  obtain ⟨onTime, takenBack⟩ := fires [.start 0 1, .tick, .stop 2, .tick] (by decide)
  exact ⟨by decide, by decide, cookie, emissions, started, start, onTime,
    takenBack (.start 1 0) [.tick] rfl, follows (unattended started) _ rfl rfl⟩

end TimerBank

end BusNode
