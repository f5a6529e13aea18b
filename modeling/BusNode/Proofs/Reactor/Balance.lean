/-
This file proves that the books of a history balance at every step. What waits in them is what waits
in the queue, no start is entered twice, and a start whose timer is still counting is not entered
yet. A machine that was given the timeout of a start is not given it again.
-/
import BusNode.Proofs.Guarded
import BusNode.Proofs.Reactor.Course
import BusNode.Proofs.Reactor.Ledger

namespace BusNode.Reactor.Ledger

variable {depth : Depth} {count : Nat}

/-- The books agree with what stands on the desk. -/
structure Balanced (ledger : Ledger) (desk : Desk depth count) : Prop where
  waiting : ledger.waiting.map Prod.fst = desk.core.waiting
  offered : ledger.taken.getLast?.map Prod.fst = desk.offered
  issued : Issued ledger.starts ledger.latest desk.core.timers
  right : Entered ledger.starts (ledger.taken ++ ledger.waiting)
  counting : ∀ {index : UInt8} {start : Nat}, ledger.latest index = some start →
    desk.core.timers.remaining index ≠ 0 → start ∉ entered (ledger.taken ++ ledger.waiting)
  delivered : ∀ {machine start : Nat}, (machine, start) ∈ ledger.deliveries →
    start ∈ entered ledger.taken
  served : ∀ {machine start : Nat} {event : Event}, (machine, start) ∈ ledger.deliveries →
    ledger.taken.getLast? = some (event, some start) → machine ∈ desk.served
  once : ledger.deliveries.Nodup

/-- An event is the timeout of a timer that has just run out, and is not entered yet. -/
def Due (ledger : Ledger) (bank : TimerBank count) (event : Event) : Prop :=
  ∃ start, ledger.latest event.p8 = some start ∧
    event = .timeout event.p8 (TimerBank.cookieAfter (start + 1)) ∧
    bank.remaining event.p8 = 0 ∧ start ∉ entered (ledger.taken ++ ledger.waiting)

namespace Balanced

variable {ledger : Ledger} {desk : Desk depth count}

theorem initial (config : Config) :
    Balanced {} ({ core := { waiting := [], timers := .idle, config } } : Desk depth count) where
  waiting := rfl
  offered := rfl
  issued := .initial
  right := ⟨by simp, by simp, List.nodup_nil⟩
  counting := by simp
  delivered := by simp
  served := by simp
  once := List.nodup_nil

theorem publish (balanced : Balanced ledger desk) (place : QueueEnd) {event : Event}
    (other : event.id ≠ Event.timerId) :
    Balanced (ledger.next (.published place event (desk.core.publish place event).1))
      { desk with core := (desk.core.publish place event).2 } := by
  cases null : event.isNil with
  | true =>
    rw [show desk.core.publish place event = (true, desk.core) from if_pos null]
    simpa [next, null] using balanced
  | false =>
    by_cases room : desk.core.waiting.length < depth.size
    · rw [Core.publish_of_room null place room]
      have posted : ledger.next (.published place event true) =
          { ledger with waiting := post event ledger.waiting place } := by simp [next, null]
      rw [posted]
      refine ⟨?_, balanced.offered, balanced.issued, balanced.right.post other place, ?_,
        balanced.delivered, balanced.served, balanced.once⟩
      · rw [← balanced.waiting]
        cases place <;> simp [post, Core.join]
      · intro index start last running
        rw [entered_post]
        exact balanced.counting last running
    · rw [Core.publish_of_full null place (Nat.not_lt.mp room)]
      exact balanced

theorem ring (balanced : Balanced ledger desk) {event : Event}
    (due : ledger.Due desk.core.timers event) :
    Balanced (ledger.next (.rang event (desk.core.publish .back event).1))
      { desk with core := (desk.core.publish .back event).2 } := by
  obtain ⟨start, last, same, stopped, fresh⟩ := due
  have timeout : event.id = Event.timerId := congrArg Event.id same
  have real : event.isNil = false := by
    rw [same]
    rfl
  by_cases room : desk.core.waiting.length < depth.size
  · rw [Core.publish_of_room real .back room]
    have rung : ledger.next (.rang event true) =
        { ledger with waiting := ledger.waiting ++ [(event, some start)] } := by
      simp [next, last]
    have drew : ledger.starts[start]? = some (event.p8, event.p16) := by
      rw [balanced.issued.own last, same]
      rfl
    rw [rung]
    refine ⟨?_, balanced.offered, balanced.issued, ?_, ?_, balanced.delivered, balanced.served,
      balanced.once⟩
    · rw [← balanced.waiting]
      simp [Core.join]
    · rw [← List.append_assoc]
      exact balanced.right.ring timeout drew fresh
    · intro index newest latest running
      rw [← List.append_assoc, entered_append, List.mem_append, not_or]
      refine ⟨balanced.counting latest running, fun among => ?_⟩
      obtain rfl : newest = start := List.mem_singleton.mp among
      rw [balanced.issued.index_unique latest last] at running
      exact running stopped
  · rw [Core.publish_of_full real .back (Nat.not_lt.mp room)]
    exact balanced

/-- A timeout that is queued leaves those of other timers due. -/
theorem due_ring (balanced : Balanced ledger desk) {event other : Event}
    (due : ledger.Due desk.core.timers event) (later : ledger.Due desk.core.timers other)
    (different : other.p8 ≠ event.p8) (queued : Bool) :
    (ledger.next (.rang event queued)).Due desk.core.timers other := by
  cases queued with
  | false => exact later
  | true =>
    obtain ⟨start, last, -⟩ := due
    obtain ⟨newest, latest, same, stopped, fresh⟩ := later
    refine ⟨newest, latest, same, stopped, ?_⟩
    rw [show (ledger.next (.rang event true)) =
      { ledger with waiting := ledger.waiting ++ [(event, some start)] } by simp [next, last]]
    rw [← List.append_assoc, entered_append, List.mem_append, not_or]
    refine ⟨fresh, fun among => ?_⟩
    obtain rfl : newest = start := List.mem_singleton.mp among
    exact different (balanced.issued.index_unique latest last)

theorem rings {events : List Event} (balanced : Balanced ledger desk)
    (due : ∀ event ∈ events, ledger.Due desk.core.timers event)
    (apart : (events.map Event.p8).Nodup) :
    Balanced ((Core.rings (events.map .publish) desk.core).foldl next ledger)
      { desk with core := Core.emitAll (events.map .publish) desk.core } := by
  induction events generalizing ledger desk with
  | nil => exact balanced
  | cons event rest inductionHypothesis =>
    obtain ⟨now, later⟩ := List.forall_mem_cons.mp due
    obtain ⟨other, apart⟩ := List.nodup_cons.mp apart
    refine inductionHypothesis (balanced.ring now) (fun next member => ?_) apart
    rw [Core.timers_publish]
    refine balanced.due_ring now (later next member) (fun same => ?_) _
    exact other (List.mem_map.mpr ⟨next, member, same⟩)

theorem startTimer (balanced : Balanced ledger desk) (index : UInt8) (ticks : UInt16) :
    Balanced ((desk.core.happenings (.startTimer index ticks)).foldl next ledger)
      { desk with core := (desk.core.startTimer index ticks).2 } := by
  cases start : desk.core.timers.start? index ticks with
  | none =>
    simp only [Core.startTimer, Core.happenings, start]
    exact balanced
  | some started =>
    obtain ⟨cookie, emissions, timers⟩ := started
    simp only [Core.startTimer, Core.happenings, start]
    obtain ⟨drew, issued⟩ := balanced.issued.start start
    have self := TimerBank.timer?_start_self start
    have begun : Balanced (ledger.next (.started index ticks cookie)) (desk.retime timers) := by
      refine ⟨balanced.waiting, balanced.offered, issued, balanced.right.start _ _, ?_,
        balanced.delivered, balanced.served, balanced.once⟩
      intro other number last running among
      rcases update_eq_some last with ⟨-, newest⟩ | ⟨different, last⟩
      · exact Nat.ne_of_lt (balanced.right.lt_length among) (Option.some.inj newest).symm
      · have same := TimerBank.remaining_congr (TimerBank.timer?_start_other different start)
        exact balanced.counting last (fun stopped => running (same.trans stopped)) among
    rw [TimerBank.emissions_of_start start, TimerBank.startEmissions]
    by_cases none : ticks = 0
    · -- A timer that is given no ticks has run out already.
      have due : ∀ event ∈ [Event.timeout index cookie],
          (ledger.next (.started index ticks cookie)).Due timers event := by
        intro event member
        obtain rfl := List.mem_singleton.mp member
        refine ⟨ledger.starts.length, Function.update_self .., ?_, ?_, fun among => ?_⟩
        · rw [← drew]
          rfl
        · exact (TimerBank.remaining_of_timer? self).trans none
        · exact Nat.lt_irrefl _ (balanced.right.lt_length among)
      rw [if_pos none]
      exact begun.rings due (List.nodup_singleton _)
    · rw [if_neg none]
      exact begun

theorem stopTimer (balanced : Balanced ledger desk) (index : UInt8) :
    Balanced ((desk.core.happenings (.stopTimer index)).foldl next ledger)
      { desk with core := desk.core.stopTimer index } := by
  have stopped : Balanced (ledger.next (.stopped index))
      (desk.retime (desk.core.timers.stop index).2) := by
    refine ⟨balanced.waiting, balanced.offered, balanced.issued.stop index, balanced.right, ?_,
      balanced.delivered, balanced.served, balanced.once⟩
    intro other start last running
    rcases update_eq_some last with ⟨-, none⟩ | ⟨different, last⟩
    · cases none
    · have same : (desk.core.timers.stop index).2.remaining other =
          desk.core.timers.remaining other :=
        TimerBank.remaining_congr (TimerBank.timer?_stop_other different)
      exact balanced.counting last fun stopped => running (same.trans stopped)
  have silent := TimerBank.not_mem_stop index desk.core.timers
  simp only [Core.stopTimer, Core.happenings]
  rw [Core.rings_of_silent silent, Core.emitAll_of_silent silent]
  exact stopped

theorem tick (balanced : Balanced ledger desk) :
    Balanced (desk.core.tickHappenings.foldl next ledger) { desk with core := desk.core.tick } := by
  have served : Balanced (ledger.next .ticked)
      (desk.retime desk.core.timers.tick.2) := by
    refine ⟨balanced.waiting, balanced.offered, balanced.issued.tick, balanced.right, ?_,
      balanced.delivered, balanced.served, balanced.once⟩
    intro index start last running
    refine balanced.counting last fun done => running ?_
    exact TimerBank.remaining_tick_of_zero done
  have due : ∀ event ∈ desk.core.timers.expiring,
      Due (ledger.next .ticked) (desk.retime desk.core.timers.tick.2).core.timers event := by
    intro event said
    obtain ⟨index, timer, held, last, rfl⟩ := TimerBank.mem_expiring balanced.issued.named said
    obtain ⟨remaining, cookie⟩ := timer
    obtain rfl : remaining = 1 := of_decide_eq_true last
    cases latest : ledger.latest index with
    | none => cases balanced.issued.idle latest held
    | some start =>
      have drew : some cookie = some (TimerBank.cookieAfter (start + 1)) := by
        rw [← balanced.issued.held latest, TimerBank.cookie?, held]
        rfl
      have left := TimerBank.remaining_of_timer? held
      refine ⟨start, latest, ?_, ?_, ?_⟩
      · rw [Option.some.inj drew]
        rfl
      · have ticked : desk.core.timers.tick.2.timer? index = some { remaining := 0, cookie } := by
          rw [TimerBank.timer?_tick, held]
          simp [Timer.tick, Timer.isRunning]
        exact TimerBank.remaining_of_timer? ticked
      · have running : desk.core.timers.remaining index ≠ 0 := fun done =>
          absurd (left.symm.trans done) (by decide : (1 : UInt16) ≠ 0)
        exact balanced.counting latest running
  exact served.rings due (TimerBank.nodup_expiring balanced.issued.named)

theorem take (balanced : Balanced ledger desk) {event : Event} {waiting : List Event}
    (following : desk.core.waiting = event :: waiting) :
    Balanced (ledger.next (.taken event)) (desk.take event waiting) := by
  obtain ⟨entry, rest, split, rfl, remain⟩ :=
    List.map_eq_cons_iff.mp (balanced.waiting.trans following)
  have same : ledger.taken ++ [entry] ++ rest = ledger.taken ++ ledger.waiting := by
    rw [split, List.append_assoc, List.singleton_append]
  rw [next_taken split]
  refine ⟨remain, ?_, balanced.issued, ?_, ?_, ?_, ?_, balanced.once⟩
  · simp [Desk.take]
  · exact same ▸ balanced.right
  · intro index start last running
    rw [same]
    exact balanced.counting last running
  · intro machine start member
    rw [entered_append]
    exact List.mem_append_left _ (balanced.delivered member)
  · -- A start whose timeout was delivered stands before the entry that is taken now.
    intro machine start later member last
    have fresh := balanced.right.once
    rw [← same, entered_append, entered_append] at fresh
    have apart := (List.nodup_append.mp (List.nodup_append.mp fresh).1).2.2
    have newest : entry = (later, some start) := by simpa using last
    exact absurd rfl (apart _ (balanced.delivered member) _ (by simp [newest, entered]))

theorem give (balanced : Balanced ledger desk) {event : Event} {machine : Nat}
    (offered : desk.offered = some event) (fresh : machine ∉ desk.served) :
    Balanced (ledger.next (.given machine event))
      { desk with served := machine :: desk.served } := by
  obtain ⟨⟨same, tag⟩, last, rfl⟩ :=
    Option.map_eq_some_iff.mp (balanced.offered.trans offered)
  cases tag with
  | none =>
    rw [show ledger.next (.given machine same) = ledger by simp [next, last]]
    refine ⟨balanced.waiting, balanced.offered, balanced.issued, balanced.right, balanced.counting,
      balanced.delivered, fun member newest => ?_, balanced.once⟩
    exact List.mem_cons_of_mem _ (balanced.served member newest)
  | some start =>
    have given : ledger.next (.given machine same) =
        { ledger with deliveries := ledger.deliveries ++ [(machine, start)] } := by
      simp [next, last]
    rw [given]
    refine ⟨balanced.waiting, balanced.offered, balanced.issued, balanced.right, balanced.counting,
      fun member => ?_, fun member newest => ?_, ?_⟩
    · rcases List.mem_append.mp member with before | now
      · exact balanced.delivered before
      · rw [(Prod.mk.inj (List.mem_singleton.mp now)).2]
        exact mem_entered.mpr ⟨same, List.mem_of_getLast? last⟩
    · rcases List.mem_append.mp member with before | now
      · exact List.mem_cons_of_mem _ (balanced.served before newest)
      · rw [(Prod.mk.inj (List.mem_singleton.mp now)).1]
        exact List.mem_cons_self
    · refine balanced.once.append (List.nodup_singleton _) (List.disjoint_singleton.mpr ?_)
      exact fun before => fresh (balanced.served before last)

/-- A timeout that is offered and current is live. -/
theorem live (balanced : Balanced ledger desk) {event : Event}
    (offered : desk.offered = some event) (timeout : event.id = Event.timerId)
    (current : desk.core.timers.isCurrent event = true) : ledger.Live event := by
  obtain ⟨⟨same, tag⟩, last, rfl⟩ :=
    Option.map_eq_some_iff.mp (balanced.offered.trans offered)
  have among : (same, tag) ∈ ledger.taken ++ ledger.waiting :=
    List.mem_append_left _ (List.mem_of_getLast? last)
  refine ⟨?_, fun start drew near => ?_⟩
  · cases tag with
    | none => exact absurd timeout (balanced.right.other among)
    | some start => exact ⟨start, last, (balanced.right.timeout among).2⟩
  · have held : desk.core.timers.cookie? same.p8 = some same.p16 := by
      simp only [TimerBank.isCurrent, Bool.and_eq_true, decide_eq_true_eq] at current
      exact current.2
    exact balanced.issued.latest_of_cookie held drew near

/-! ### Steps -/

theorem allows_rings {emissions : List Emission} {core : Core depth count} {happening : Happening}
    (member : happening ∈ core.rings emissions) (ledger : Ledger) : ledger.Allows happening := by
  induction emissions generalizing core with
  | nil => cases member
  | cons emission rest inductionHypothesis =>
    cases emission with
    | publish event =>
      rcases List.mem_cons.mp member with rfl | later
      · trivial
      · exact inductionHypothesis later
    | trace event =>
      have later : happening ∈ core.rings rest := member
      exact inductionHypothesis later
    | note notice =>
      have later : happening ∈ core.rings rest := member
      exact inductionHypothesis later

/-- To perform a service gives nothing to a machine. -/
theorem allows_happenings {service : Service} {core : Core depth count} {happening : Happening}
    (member : happening ∈ core.happenings service) (ledger : Ledger) :
    ledger.Allows happening := by
  cases service with
  | publish place event =>
    obtain rfl := List.mem_singleton.mp member
    trivial
  | startTimer index ticks =>
    cases start : core.timers.start? index ticks with
    | none =>
      simp only [Core.happenings, start] at member
      cases member
    | some started =>
      simp only [Core.happenings, start] at member
      rcases List.mem_cons.mp member with rfl | later
      · trivial
      · exact allows_rings later ledger
  | stopTimer index =>
    rcases List.mem_cons.mp member with rfl | later
    · trivial
    · exact allows_rings later ledger
  | trace event | ticksLeft index | isCurrent event | ticksIn time | now | note notice =>
    cases member

/-- A step that nobody forges a timeout in does what is allowed and keeps the balance. -/
theorem step {last : Desk depth count} {happenings : List Happening}
    (balanced : Balanced ledger desk) (step : Step desk happenings last)
    (honest : ∀ happening ∈ happenings, happening.forged = false) :
    Guarded next Allows ledger happenings ∧ Balanced (happenings.foldl next ledger) last := by
  cases step with
  | perform now service =>
    refine ⟨guarded_of_always fun happening member => allows_happenings member, ?_⟩
    cases service with
    | publish place event =>
      exact balanced.publish place (of_decide_eq_false (honest _ List.mem_cons_self))
    | startTimer index ticks => exact balanced.startTimer index ticks
    | stopTimer index => exact balanced.stopTimer index
    | trace event | ticksLeft index | isCurrent event | ticksIn time | now | note notice =>
      exact balanced
  | tick =>
    refine ⟨guarded_of_always fun happening member => ?_, balanced.tick⟩
    rcases List.mem_cons.mp member with rfl | later
    · exact fun _ => trivial
    · exact allows_rings later
  | take next => exact ⟨⟨trivial, trivial⟩, balanced.take next⟩
  | give offered fresh admitted =>
    exact ⟨⟨fun timeout => balanced.live offered timeout (admitted timeout), trivial⟩,
      balanced.give offered fresh⟩

theorem course {last : Desk depth count} {past : List Happening}
    (balanced : Balanced ledger desk) (course : Course desk past last)
    (honest : ∀ happening ∈ past, happening.forged = false) :
    Guarded next Allows ledger past ∧ Balanced (past.foldl next ledger) last := by
  induction course with
  | rest => exact ⟨trivial, balanced⟩
  | step _ step inductionHypothesis =>
    obtain ⟨before, now⟩ := List.forall_mem_append.mp honest
    obtain ⟨guarded, balanced⟩ := inductionHypothesis before
    obtain ⟨onward, balanced⟩ := balanced.step step now
    rw [guarded_append, List.foldl_append]
    exact ⟨⟨guarded, onward⟩, balanced⟩

end Balanced

end BusNode.Reactor.Ledger
