/-
This file says where a supervisor can stand between two drains. Either it knows that the master is
lost, or it takes the master to be there and one of three things holds: an event that it has sent to
itself waits, its timer is counting and the light shows it, or the timeout of its timer waits.

So there is always something on the way that brings the light and the timer in line, as long as the
queue refuses nothing.
-/
import BusNode.Proofs.Reactor.History
import BusNode.Proofs.Supervisor.Handling

namespace BusNode.Supervisor

open Reactor (Core Happening)

variable {depth : Depth} {count : Nat} {agent : Agent Supervisor} {event : Event}
  {core later : Core depth count}

/-! ### Events that a supervisor answers with an event -/

/-- Whether a supervisor may answer an event by sending itself one. -/
def isSign (event : Event) : Bool := event.id = Event.entryId || event.id = masterCommsId

theorem isSign_iff : isSign event = true ↔ event.id = Event.entryId ∨ event.id = masterCommsId := by
  simp [isSign]

theorem isSign_toSelf (id : UInt8) : isSign (.toSelf id) = false := rfl

/-- A sign of the master is held back from nobody. -/
theorem admits_of_isSign (sign : isSign event = true) : core.admits event agent = true := by
  have other : event.id ≠ Event.timerId ∧ event.id ≠ Event.selfId := by
    rcases isSign_iff.mp sign with entry | comms
    · rw [entry]
      decide
    · rw [comms]
      decide
  simp [Core.admits, other]

theorem brings_running (here : agent.context.state = running) (sign : isSign event = true) :
    Core.Brings (Machine.handle event agent) core
      (.published .front (.toSelf agent.context.id)
        (core.publish .front (.toSelf agent.context.id)).1) := by
  rw [handle_running here, handleRunning, if_pos (isSign_iff.mp sign)]
  exact (Core.Brings.publish _ _ core).first

/-- A supervisor that is put into its first state sends itself an event. -/
theorem brings_start (id : UInt8) : Core.Brings (agent.start id) core
    (.published .front (.toSelf id) (core.publish .front (.toSelf id)).1) := by
  exact .second (.note _) (.first (brings_running rfl rfl))

theorem dispatch_sign_running (here : agent.context.state = running) (sign : isSign event = true) :
    Core.PlaysOnly (agent.dispatch event) core (true, agent)
      (core.publish .front (.toSelf agent.context.id)).2 :=
  .dispatch (admits_of_isSign sign) (.deliver_stay (posts_running here (isSign_iff.mp sign)))

theorem brings_sign_running (here : agent.context.state = running) (sign : isSign event = true) :
    Core.Brings (agent.dispatch event) core
      (.published .front (.toSelf agent.context.id)
        (core.publish .front (.toSelf agent.context.id)).1) := by
  refine .second .admits ?_
  rw [if_pos (admits_of_isSign sign)]
  exact (brings_running here sign).first.first

/-- A request makes a supervisor that has lost the master send itself an event. -/
theorem brings_comms_lost (here : agent.context.state = lost) (comms : event.id = masterCommsId) :
    Core.Brings (agent.dispatch event) core
      (.published .front (.toSelf agent.context.id)
        (core.publish .front (.toSelf agent.context.id)).1) := by
  refine .second .admits ?_
  rw [if_pos (admits_of_isSign (isSign_iff.mpr (.inr comms)))]
  refine .first (.second (leaves_lost here comms) ?_)
  refine .second (.notify (passes_over (concerns_exit _))) (.second (.trace _) (.second (.note _) ?_))
  exact .first (brings_running rfl rfl)

/-- A supervisor that has lost the master does nothing with an event that is no sign of it. -/
theorem stays_lost (here : agent.context.state = lost) (quiet : isSign event ≠ true) :
    Core.PlaysOnly (Machine.handle event agent) core (.stay, agent) core := by
  have other := not_or.mp (mt isSign_iff.mpr quiet)
  rw [handle_lost here, handleLost, if_neg other.1, if_neg other.2]
  exact .done

/-! ### Standing -/

/-- Where a supervisor stands. -/
inductive Stands (agent : Agent Supervisor) (core : Core depth count) : Prop where
  | deserted (state : agent.context.state = lost) (shown : agent.body.shown.getLast? = some .noMaster)
  | sent {event : Event} (state : agent.context.state = running) (waits : event ∈ core.waiting)
      (self : event.id = Event.selfId) (own : event.p8 = agent.context.id)
  | counting (state : agent.context.state = running)
      (shown : agent.body.shown.getLast? = some .healthy)
      (left : core.timers.remaining agent.body.timer ≠ 0)
      (within : core.timers.remaining agent.body.timer ≤ core.config.ticksIn patience)
  | rung {event : Event} (state : agent.context.state = running) (waits : event ∈ core.waiting)
      (timeout : event.id = Event.timerId) (own : event.p8 = agent.body.timer)
      (current : core.timers.isCurrent event = true)

namespace Stands

theorem state (stands : Stands agent core) :
    agent.context.state = running ∨ agent.context.state = lost := by
  cases stands with
  | deserted state => exact .inr state
  | sent state => exact .inl state
  | counting state => exact .inl state
  | rung state => exact .inl state

/-- What adds to the queue and leaves the timer alone leaves a supervisor where it stands. -/
theorem mono (stands : Stands agent core) (waits : ∀ event ∈ core.waiting, event ∈ later.waiting)
    (timer : later.timers.timer? agent.body.timer = core.timers.timer? agent.body.timer)
    (config : later.config = core.config) : Stands agent later := by
  cases stands with
  | deserted state shown => exact .deserted state shown
  | sent state member self own => exact .sent state (waits _ member) self own
  | counting state shown left within =>
    have same := TimerBank.remaining_congr timer
    refine .counting state shown (same.trans_ne left) ?_
    rw [same, config]
    exact within
  | rung state member timeout own current =>
    refine .rung state (waits _ member) timeout own ?_
    rw [TimerBank.isCurrent, TimerBank.cookie?, own] at current ⊢
    rw [timer]
    exact current

/-- An event may be taken that is neither sent by the supervisor to itself nor a current timeout of
its timer. -/
theorem skip (stands : Stands agent core) {waiting : List Event}
    (next : core.waiting = event :: waiting)
    (other : event.id = Event.selfId → event.p8 ≠ agent.context.id)
    (stale : event.id = Event.timerId → event.p8 = agent.body.timer →
      core.timers.isCurrent event ≠ true) :
    Stands agent ({ core with waiting } : Core depth count) := by
  cases stands with
  | deserted state shown => exact .deserted state shown
  | sent state member self own =>
    rw [next] at member
    rcases List.mem_cons.mp member with rfl | behind
    · exact absurd own (other self)
    · exact .sent state behind self own
  | counting state shown left within => exact .counting state shown left within
  | rung state member timeout own current =>
    rw [next] at member
    rcases List.mem_cons.mp member with rfl | behind
    · exact absurd current (stale timeout own)
    · exact .rung state behind timeout own current

end Stands

/-! ### Taking events -/

/-- How many events can still be taken when nothing else is published. A sign of the master may be
answered with one more. -/
def burden (waiting : List Event) : Nat := waiting.length + waiting.countP isSign

theorem burden_le (waiting : List Event) : burden waiting ≤ 2 * waiting.length := by
  have few : waiting.countP isSign ≤ waiting.length := List.countP_le_length
  rw [burden]
  omega

/-- What becomes of a supervisor that is offered the event that waits ahead of all others. -/
structure Follows (agent : Agent Supervisor) (core : Core depth count) (after : Agent Supervisor)
    (last : Core depth count) : Prop where
  stands : Stands after last
  id : after.context.id = agent.context.id
  timer : after.body.timer = agent.body.timer
  lighter : burden last.waiting < burden core.waiting

section Taking

variable {waiting : List Event} (next : core.waiting = event :: waiting)

include next

theorem burden_taken : burden waiting < burden core.waiting := by
  rw [next, burden, burden, List.length_cons, List.countP_cons]
  omega

/-- The event that a supervisor sends itself in answer to a sign of the master comes in its place.
-/
theorem follows_sent {after : Agent Supervisor} (id : after.context.id = agent.context.id)
    (timer : after.body.timer = agent.body.timer) (state : after.context.state = running)
    (sign : isSign event = true)
    (granted : (({ core with waiting } : Core depth count).publish .front
      (.toSelf agent.context.id)).1 = true) :
    Follows agent core after
      (({ core with waiting } : Core depth count).publish .front (.toSelf agent.context.id)).2 := by
  rw [Core.publish_of_granted rfl .front granted]
  refine ⟨.sent state List.mem_cons_self rfl id.symm, id, timer, ?_⟩
  rw [next, burden, burden, Core.join, List.countP_cons_of_pos sign,
    List.countP_cons_of_neg (Bool.eq_false_iff.mp (isSign_toSelf _))]
  exact Nat.lt_succ_self _

/-- An event that changes nothing is behind a supervisor once it was offered. -/
theorem Stands.follows_skip (stands : Stands agent core)
    (other : event.id = Event.selfId → event.p8 ≠ agent.context.id)
    (stale : event.id = Event.timerId → event.p8 = agent.body.timer →
      core.timers.isCurrent event ≠ true) :
    Follows agent core agent ({ core with waiting } : Core depth count) :=
  ⟨stands.skip next other stale, rfl, rfl, burden_taken next⟩

/-- What becomes of a supervisor that has lost the master when it is given an event. -/
theorem Stands.follows_lost (stands : Stands agent core) (here : agent.context.state = lost)
    (admitted : core.admits event agent = true)
    (granted : ∀ happening,
      Core.Brings (agent.dispatch event) ({ core with waiting } : Core depth count) happening →
        happening.refused = false) :
    ∃ given after last, Core.PlaysOnly (agent.dispatch event)
      ({ core with waiting } : Core depth count) (given, after) last ∧
        Follows agent core after last := by
  by_cases sign : isSign event = true
  · rcases isSign_iff.mp sign with entry | comms
    · refine ⟨_, _, _, .dispatch admitted (.deliver_stay (shows_lost here entry)), ?_⟩
      exact ⟨.deserted here List.getLast?_concat, rfl, rfl, burden_taken next⟩
    · have listening : listens agent = true := by simp [listens, here]
      have moved : roused agent = inState running agent := if_pos here
      have only : Core.PlaysOnly (agent.dispatch event) ({ core with waiting } : Core depth count)
          _ _ := dispatch_comms comms
      rw [moved, if_pos listening] at only
      refine ⟨_, _, _, only, follows_sent next rfl rfl rfl sign ?_⟩
      exact Happening.queued_of_granted (granted _ (brings_comms_lost here comms))
  · refine ⟨_, _, _, .dispatch admitted (.deliver_stay (stays_lost here sign)), ?_⟩
    refine ⟨?_, rfl, rfl, burden_taken next⟩
    cases stands with
    | deserted state shown => exact .deserted state shown
    | sent state | counting state | rung state =>
      exact absurd (state.symm.trans here) running_ne_lost

/-- What becomes of a supervisor that takes the master to be there when it is given an event. -/
theorem Stands.follows_running (stands : Stands agent core) (inside : agent.body.timer.toNat < count)
    (here : agent.context.state = running) (admitted : core.admits event agent = true)
    (granted : ∀ happening,
      Core.Brings (agent.dispatch event) ({ core with waiting } : Core depth count) happening →
        happening.refused = false) :
    ∃ given after last, Core.PlaysOnly (agent.dispatch event)
      ({ core with waiting } : Core depth count) (given, after) last ∧
        Follows agent core after last := by
  by_cases sign : isSign event = true
  · refine ⟨_, _, _, dispatch_sign_running here sign, follows_sent next rfl rfl here sign ?_⟩
    exact Happening.queued_of_granted (granted _ (brings_sign_running here sign))
  by_cases self : event.id = Event.selfId
  · refine ⟨_, _, _, .dispatch admitted (.deliver_stay (rearms_running here self)), ?_⟩
    have rearmed := rearmed inside ({ core with waiting } : Core depth count)
    have full := TimerBank.remaining_of_timer? rearmed.timer
    refine ⟨.counting here List.getLast?_concat ?_ ?_, rfl, rfl, ?_⟩
    · exact fun none => ticksIn_patience_ne_zero core.config (full.symm.trans none)
    · rw [rearmed.config]
      exact UInt16.le_of_eq full
    · rw [rearmed.waiting]
      exact burden_taken next
  by_cases timeout : event.id = Event.timerId ∧ event.p8 = agent.body.timer
  · obtain ⟨ended, own⟩ := timeout
    refine ⟨_, _, _, .dispatch admitted (.deliver_moveTo (leaves_running here ended own)
      (.moveTo (passes_over (concerns_exit _)) (shows_lost rfl rfl))), ?_⟩
    exact ⟨.deserted rfl List.getLast?_concat, rfl, rfl, burden_taken next⟩
  · have idle : concerns agent.body.timer event = false := by
      have quiet := not_or.mp (mt isSign_iff.mpr sign)
      simpa [concerns, quiet, self] using not_and.mp timeout
    refine ⟨_, _, _, .dispatch admitted (.deliver_stay (passes_over idle)), ?_⟩
    exact stands.follows_skip next (absurd · self) fun ended own => absurd ⟨ended, own⟩ timeout

/-- A supervisor that is offered the next event stands again, if its answer is not refused. -/
theorem Stands.follows (stands : Stands agent core) (inside : agent.body.timer.toNat < count)
    (granted : ∀ happening,
      Core.Brings (agent.dispatch event) ({ core with waiting } : Core depth count) happening →
        happening.refused = false) :
    ∃ given after last, Core.PlaysOnly (agent.dispatch event)
      ({ core with waiting } : Core depth count) (given, after) last ∧
        Follows agent core after last := by
  cases admitted : core.admits event agent with
  | true =>
    rcases stands.state with here | here
    · exact stands.follows_running next inside here admitted granted
    · exact stands.follows_lost next here admitted granted
  | false =>
    refine ⟨_, _, _, .dispatch_of_not_admits admitted, ?_⟩
    refine stands.follows_skip next (fun self own => ?_) fun timeout own current => ?_
    · have mine : core.admits event agent = true := by
        simp [Core.admits, self, own, Event.selfId, Event.timerId]
      exact Bool.false_ne_true (admitted.symm.trans mine)
    · have mine : core.admits event agent = true := (if_pos timeout).trans current
      exact Bool.false_ne_true (admitted.symm.trans mine)

end Taking

end BusNode.Supervisor
