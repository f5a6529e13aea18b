/-
This file follows the silence of a master through its phases. The timer of the supervisor counts
down with the ticks. At the tick at which it runs out there is one timeout, and it is never said
again. If the queue has room for it, it waits until it is handed out, and the supervisor notices. If
not, the silence is missed.

Only a tick ends the first phase. Nothing that is published, started, stopped or handed out in
between does, as long as it does not concern the supervisor.
-/
import BusNode.Proofs.Supervisor.Handling

namespace BusNode.Supervisor

open Reactor (Core)

variable {queueDepth : Depth} {timerCount : Nat}

/-! ### Phases -/

/-- How far the silence of a master has gone. -/
inductive Phase where
  /-- The timer has the given ticks left. -/
  | counting (left : UInt16)
  /-- The timer has run out, and its timeout waits. -/
  | rung
  /-- The supervisor was given the timeout. -/
  | noticed
  /-- The timer has run out, and there was no room for its timeout. -/
  | missed
  deriving DecidableEq

namespace Phase

/-- The ticks that the timer has left. -/
def left : Phase → UInt16
  | counting left => left
  | rung | noticed | missed => 0

/-- What has become of the supervisor. -/
def agent (watcher : Agent Supervisor) : Phase → Agent Supervisor
  | noticed => setLight .noMaster (inState lost watcher)
  | counting _ | rung | missed => watcher

/-- What waits that concerns the supervisor. -/
def waiting (timer : UInt8) (cookie : UInt16) : Phase → List Event
  | rung => [.timeout timer cookie]
  | counting _ | noticed | missed => []

/-- Where a supervisor and a core stand in a phase. -/
structure Holds (watcher : Agent Supervisor) (cookie : UInt16) (phase : Phase)
    (agents : List (Agent Supervisor)) (core : Core queueDepth timerCount) : Prop where
  agents : agents = [phase.agent watcher]
  timer : core.timers.timer? watcher.body.timer = some { remaining := phase.left, cookie }
  waiting : core.waiting.filter (concerns watcher.body.timer) =
    phase.waiting watcher.body.timer cookie
  named : core.timers.Named

/-- What can come after a phase when events are handed out. -/
def Settles (phase later : Phase) : Prop := later = phase ∨ phase = .rung ∧ later = .noticed

theorem Settles.trans {phase later last : Phase} (first : phase.Settles later)
    (second : later.Settles last) : phase.Settles last := by
  obtain rfl | ⟨rfl, rfl⟩ := first
  · exact second
  · obtain rfl | ⟨again, -⟩ := second
    · exact .inr ⟨rfl, rfl⟩
    · cases again

end Phase

namespace Phase.Holds

variable {watcher : Agent Supervisor} {cookie : UInt16} {phase : Phase}
  {agents later : List (Agent Supervisor)} {core last : Core queueDepth timerCount}

theorem body_timer (phase : Phase) (watcher : Agent Supervisor) :
    (phase.agent watcher).body.timer = watcher.body.timer := by
  cases phase <;> rfl

/-- The event that waits ahead of all others is offered to the supervisor. -/
theorem offers (awake : watcher.context.state = running)
    (holds : phase.Holds watcher cookie agents core) {event : Event} {waiting : List Event}
    (next : core.waiting = event :: waiting)
    (offers : Core.Offers event agents { core with waiting } later last) :
    ∃ settled : Phase, phase.Settles settled ∧ settled.Holds watcher cookie later last ∧
      last.waiting = waiting := by
  obtain ⟨rfl, timer, concerned, named⟩ := holds
  rw [next] at concerned
  cases idle : concerns watcher.body.timer event with
  | false =>
    rw [List.filter_cons_of_neg (by simp [idle])] at concerned
    rw [← body_timer phase] at idle
    obtain ⟨given, only⟩ := dispatch_idle idle
    obtain ⟨rfl, rfl⟩ := only.offers_single offers
    exact ⟨phase, .inl rfl, ⟨rfl, timer, concerned, named⟩, rfl⟩
  | true =>
    rw [List.filter_cons_of_pos idle] at concerned
    cases phase with
    | rung =>
      obtain ⟨rfl, alone⟩ := List.cons.inj concerned
      have current : ({ core with waiting } : Core queueDepth timerCount).timers.isCurrent
          (.timeout watcher.body.timer cookie) = true := by
        simp [TimerBank.isCurrent, TimerBank.cookie?, Event.timeout, timer]
      obtain ⟨rfl, rfl⟩ := (dispatch_timeout_running awake current).offers_single offers
      exact ⟨.noticed, .inr ⟨rfl, rfl⟩, ⟨rfl, timer, alone, named⟩, rfl⟩
    | counting left => cases concerned
    | noticed => cases concerned
    | missed => cases concerned

/-- What is published and concerns nobody leaves the phase as it is. -/
theorem publish (holds : phase.Holds watcher cookie agents core) (place : QueueEnd) {event : Event}
    (idle : concerns watcher.body.timer event = false) :
    phase.Holds watcher cookie agents (core.publish place event).2 := by
  obtain ⟨same, timer, concerned, named⟩ := holds
  refine ⟨same, ?_, ?_, ?_⟩
  · rw [Core.timers_publish]
    exact timer
  · rw [Core.filter_publish idle]
    exact concerned
  · rw [Core.timers_publish]
    exact named

/-- Another timer leaves the phase as it is when it is started. -/
theorem startTimer (holds : phase.Holds watcher cookie agents core) {index : UInt8}
    (other : index ≠ watcher.body.timer) (ticks : UInt16) :
    phase.Holds watcher cookie agents (core.startTimer index ticks).2 := by
  obtain ⟨same, timer, concerned, named⟩ := holds
  unfold Core.startTimer
  cases start : core.timers.start? index ticks with
  | none => exact ⟨same, timer, concerned, named⟩
  | some started =>
    obtain ⟨drawn, emissions, timers⟩ := started
    refine ⟨same, ?_, ?_, ?_⟩
    · rw [Core.timers_emitAll, TimerBank.timer?_start_other other.symm start]
      exact timer
    · rw [Core.filter_emitAll fun event said => ?_]
      · exact concerned
      · rw [TimerBank.timeout_of_start start said, concerns_timeout]
        exact decide_eq_false other
    · rw [Core.timers_emitAll]
      exact named.start start

theorem stopTimer (holds : phase.Holds watcher cookie agents core) {index : UInt8}
    (other : index ≠ watcher.body.timer) :
    phase.Holds watcher cookie agents (core.stopTimer index) := by
  obtain ⟨same, timer, concerned, named⟩ := holds
  unfold Core.stopTimer
  refine ⟨same, ?_, ?_, ?_⟩
  · rw [Core.timers_emitAll, TimerBank.timer?_stop_other other.symm]
    exact timer
  · rw [Core.filter_emitAll fun event said => ?_]
    · exact concerned
    · exact absurd said (TimerBank.not_mem_stop index core.timers event)
  · rw [Core.timers_emitAll]
    exact named.stop index

end Phase.Holds

/-- Of a row of events with a single wanted one as many are taken as there is room for. -/
theorem filter_take_single {wanted : Event → Bool} {before after : List Event} {event : Event}
    (single : ∀ other ∈ before ++ after, wanted other = false) (found : wanted event = true)
    (room : Nat) :
    ((before ++ event :: after).take room).filter wanted =
      if before.length < room then [event] else [] := by
  obtain ⟨early, late⟩ := List.forall_mem_append.mp single
  have none {events : List Event} (unwanted : ∀ other ∈ events, wanted other = false)
      (number : Nat) : (events.take number).filter wanted = [] :=
    List.filter_eq_nil_iff.mpr fun other member =>
      Bool.not_eq_true _ ▸ unwanted other (List.mem_of_mem_take member)
  rw [List.take_append, List.filter_append, none early, List.nil_append]
  by_cases fits : before.length < room
  · obtain ⟨more, left⟩ : ∃ more, room - before.length = more + 1 :=
      ⟨room - before.length - 1, by omega⟩
    rw [left, List.take_succ_cons, List.filter_cons_of_pos found, none late, if_pos fits]
  · rw [Nat.sub_eq_zero_of_le (Nat.not_lt.mp fits), List.take_zero, List.filter_nil, if_neg fits]

/-- Whether the queue has room for the timeout of a timer that runs out with the next tick. The
timers before it come first. -/
def HasRoom (timer : UInt8) (core : Core queueDepth timerCount) : Prop :=
  core.waiting.length + core.timers.ahead timer < queueDepth.size

instance (timer : UInt8) (core : Core queueDepth timerCount) : Decidable (HasRoom timer core) :=
  inferInstanceAs (Decidable (_ < _))

namespace Phase

/-- What comes after a phase with a tick. -/
def next (room : Bool) : Phase → Phase
  | counting left => if left = 1 then if room then rung else missed else counting (left - 1)
  | rung => rung
  | noticed => noticed
  | missed => missed

namespace Holds

variable {watcher : Agent Supervisor} {cookie : UInt16} {phase : Phase}
  {agents : List (Agent Supervisor)} {core : Core queueDepth timerCount}

/-- Of the timeouts of a tick only that of its own timer concerns a supervisor. -/
theorem filter_expiring (holds : phase.Holds watcher cookie agents core) (room : Nat) :
    (core.timers.expiring.take room).filter (concerns watcher.body.timer) =
      if phase.left = 1 ∧ core.timers.ahead watcher.body.timer < room then
        [.timeout watcher.body.timer cookie]
      else [] := by
  have own : concerns watcher.body.timer (.timeout watcher.body.timer cookie) = true := by
    rw [concerns_timeout, decide_eq_true rfl]
  have others {event : Event} (said : event ∈ core.timers.expiring)
      (other : event.p8 ≠ watcher.body.timer) : concerns watcher.body.timer event = false := by
    obtain ⟨index, timer, -, -, rfl⟩ := TimerBank.mem_expiring holds.named said
    rw [concerns_timeout]
    exact decide_eq_false other
  by_cases last : phase.left = 1
  · have expiring : ({ remaining := phase.left, cookie } : Timer).isExpiring = true :=
      decide_eq_true last
    obtain ⟨before, after, split, length, apart⟩ :=
      TimerBank.expiring_split holds.named holds.timer expiring
    have single : ∀ event ∈ before ++ after, concerns watcher.body.timer event = false := by
      refine fun event member => others ?_ (apart event member)
      rw [split]
      exact (List.mem_append.mp member).elim (List.mem_append_left _)
        fun late => List.mem_append_right _ (List.mem_cons_of_mem _ late)
    rw [split, filter_take_single single own, length]
    simp only [last, true_and]
  · rw [if_neg fun both => last both.1, List.filter_eq_nil_iff]
    intro event member
    have said := List.mem_of_mem_take member
    rw [others said, Bool.false_eq_true]
    · exact not_false
    obtain ⟨index, timer, held, expiring, rfl⟩ := TimerBank.mem_expiring holds.named said
    rintro rfl
    rw [holds.timer] at held
    obtain rfl := Option.some.inj held
    exact last (of_decide_eq_true expiring)

theorem tick (holds : phase.Holds watcher cookie agents core) (running : phase ≠ .counting 0) :
    (phase.next (HasRoom watcher.body.timer core)).Holds watcher cookie agents core.tick := by
  have ticked : core.tick.timers.timer? watcher.body.timer =
      some (Timer.tick { remaining := phase.left, cookie }) := by
    rw [Core.tick_eq, TimerBank.timer?_tick, holds.timer, Option.map_some]
  have named : core.tick.timers.Named := by
    rw [Core.tick_eq]
    exact holds.named.tick
  have waiting : core.tick.waiting.filter (concerns watcher.body.timer) =
      phase.waiting watcher.body.timer cookie ++
        if phase.left = 1 ∧ HasRoom watcher.body.timer core then
          [.timeout watcher.body.timer cookie]
        else [] := by
    have room : core.timers.ahead watcher.body.timer < queueDepth.size - core.waiting.length ↔
        HasRoom watcher.body.timer core := by
      rw [HasRoom]
      omega
    rw [Core.tick_eq, List.filter_append, holds.waiting, filter_expiring holds]
    simp only [room]
  have still (other : phase.left ≠ 1) : core.tick.waiting.filter (concerns watcher.body.timer) =
      phase.waiting watcher.body.timer cookie := by
    rw [waiting, if_neg fun both => other both.1, List.append_nil]
  have agents := holds.agents
  cases phase with
  | counting left =>
    have more : left ≠ 0 := fun none => running (congrArg counting none)
    have counted : core.tick.timers.timer? watcher.body.timer =
        some { remaining := left - 1, cookie } :=
      ticked.trans (congrArg some (if_pos (decide_eq_true more)))
    by_cases last : left = 1
    · subst last
      rw [UInt16.sub_self] at counted
      by_cases room : HasRoom watcher.body.timer core
      · rw [next, if_pos rfl, if_pos (decide_eq_true room)]
        refine ⟨agents, counted, ?_, named⟩
        rw [waiting, if_pos ⟨rfl, room⟩]
        rfl
      · rw [next, if_pos rfl, if_neg (by simpa using room)]
        refine ⟨agents, counted, ?_, named⟩
        rw [waiting, if_neg fun both => room both.2]
        rfl
    · rw [next, if_neg last]
      exact ⟨agents, counted, still last, named⟩
  | rung => exact ⟨agents, ticked, still (by decide), named⟩
  | noticed => exact ⟨agents, ticked, still (by decide), named⟩
  | missed => exact ⟨agents, ticked, still (by decide), named⟩

end Holds

end Phase

end BusNode.Supervisor
