/-
This file lists what a supervisor does with each event that it may be offered, by what becomes of
the supervisor and of the core of the reactor. It goes by the kind of event and by the state it is
in. A supervisor never asks for the time, so there is one course each.
-/
import BusNode.Proofs.Reactor.Played
import BusNode.Supervisor

namespace BusNode.Supervisor

open Reactor (Core)

variable {depth : Depth} {count : Nat} {agent : Agent Supervisor} {event : Event}
  {core : Core depth count}

theorem running_ne_lost : running ≠ lost := by decide

/-! ### The timer -/

/-- At every rate the master may be silent for some ticks. -/
theorem ticksIn_patience_ne_zero (config : Reactor.Config) : config.ticksIn patience ≠ 0 := by
  have long : config.tickMs.toNat ≤ 1000 := by
    rw [Reactor.Config.tickMs, UInt32.toNat_div]
    exact Nat.div_le_self _ _
  obtain ⟨divisor, same, low, high⟩ : ∃ divisor : UInt32, max config.tickMs 1 = divisor ∧
      1 ≤ divisor.toNat ∧ divisor.toNat ≤ 1000 := by
    refine ⟨_, rfl, ?_⟩
    rw [show max config.tickMs 1 = if config.tickMs ≤ 1 then 1 else config.tickMs from rfl]
    split
    · exact ⟨Nat.le_refl 1, by decide⟩
    · rename_i above
      rw [UInt32.le_iff_toNat_le] at above
      exact ⟨Nat.le_of_lt (Nat.lt_of_not_le above), long⟩
  have ticks : (patience / divisor).toNat = 4000 / divisor.toNat := UInt32.toNat_div _ _
  have several : 4 ≤ 4000 / divisor.toNat := (Nat.le_div_iff_mul_le low).mpr (by omega)
  have few : 4000 / divisor.toNat ≤ 4000 := Nat.div_le_self _ _
  have within : patience / divisor ≤ 65535 := by
    rw [UInt32.le_iff_toNat_le, ticks]
    exact Nat.le_trans few (by decide)
  have whole : config.ticksIn patience = (patience / divisor).toUInt16 := by
    rw [Reactor.Config.ticksIn, same]
    exact congrArg UInt32.toUInt16 (if_pos within)
  intro none
  have zero := congrArg UInt16.toNat (whole.symm.trans none)
  rw [UInt32.toNat_toUInt16, ticks, UInt16.toNat_zero] at zero
  omega

/-- What becomes of the timers when one of them is started for as long as the master may be silent.
-/
structure Rearmed (index : UInt8) (before after : Core depth count) : Prop where
  waiting : after.waiting = before.waiting
  config : after.config = before.config
  timer : after.timers.timer? index =
    some { remaining := before.config.ticksIn patience
           cookie := TimerBank.nextCookie before.timers.lastCookie }
  others : ∀ other, other ≠ index → after.timers.timer? other = before.timers.timer? other
  lastCookie : after.timers.lastCookie = TimerBank.nextCookie before.timers.lastCookie
  named : before.timers.Named → after.timers.Named

theorem rearmed {index : UInt8} (inside : index.toNat < count) (core : Core depth count) :
    Rearmed index core (core.startTimer index (core.config.ticksIn patience)).2 := by
  have start : core.timers.start? index (core.config.ticksIn patience) = _ := dif_pos inside
  rw [Core.startTimer_of_start? (ticksIn_patience_ne_zero core.config) start]
  exact ⟨rfl, rfl, TimerBank.timer?_start_self start,
    fun other different => TimerBank.timer?_start_other different start, rfl,
    fun named => named.start start⟩

/-- The supervisor in another state. -/
def inState (state : UInt8) (agent : Agent Supervisor) : Agent Supervisor :=
  { agent with context := { agent.context with state } }

/-! ### While the master is there -/

section Running

variable (here : agent.context.state = running)

include here

theorem handle_running : Machine.handle event agent = handleRunning event agent := if_pos here

theorem posts_running (sign : event.id = Event.entryId ∨ event.id = masterCommsId) :
    Core.PlaysOnly (Machine.handle event agent) core (.stay, agent)
      (core.publish .front (.toSelf agent.context.id)).2 := by
  rw [handle_running here, handleRunning, if_pos sign]
  exact (Core.PlaysOnly.publish _ _).bind .done

theorem rearms_running (self : event.id = Event.selfId) :
    Core.PlaysOnly (Machine.handle event agent) core (.stay, setLight .healthy agent)
      (core.startTimer agent.body.timer (core.config.ticksIn patience)).2 := by
  have other : ¬ (event.id = Event.entryId ∨ event.id = masterCommsId) := by
    rw [self]
    decide
  rw [handle_running here, handleRunning, if_neg other, if_pos self]
  refine .bind (.bind (.ticksIn _) ?_) .done
  exact .bind (.startTimer _ _) .done

theorem leaves_running (timeout : event.id = Event.timerId) (own : event.p8 = agent.body.timer) :
    Core.PlaysOnly (Machine.handle event agent) core (.moveTo lost, agent) core := by
  have other : ¬ (event.id = Event.entryId ∨ event.id = masterCommsId) ∧
      event.id ≠ Event.selfId := by
    rw [timeout]
    decide
  rw [handle_running here, handleRunning, if_neg other.1, if_neg other.2, if_pos ⟨timeout, own⟩]
  exact .done

end Running

/-! ### While the master is lost -/

section Lost

variable (here : agent.context.state = lost)

include here

theorem handle_lost : Machine.handle event agent = handleLost event agent :=
  (if_neg (by rw [here]; decide)).trans (if_pos here)

theorem shows_lost (entry : event.id = Event.entryId) :
    Core.PlaysOnly (Machine.handle event agent) core (.stay, setLight .noMaster agent) core := by
  rw [handle_lost here, handleLost, if_pos entry]
  exact (Core.PlaysOnly.note _).bind .done

theorem leaves_lost (sign : event.id = masterCommsId) :
    Core.PlaysOnly (Machine.handle event agent) core (.moveTo running, agent) core := by
  have other : event.id ≠ Event.entryId := by
    rw [sign]
    decide
  rw [handle_lost here, handleLost, if_neg other, if_pos sign]
  exact .done

end Lost

/-! ### In any state -/

/-- A supervisor knows two states, and does nothing in any other. -/
theorem handle_elsewhere (awake : agent.context.state ≠ running)
    (listening : agent.context.state ≠ lost) :
    Machine.handle event agent = .done (.stay, agent) :=
  (if_neg awake).trans (if_neg listening)

/-- Whether a supervisor with the given timer does something with an event in some state. -/
def concerns (timer : UInt8) (event : Event) : Bool :=
  event.id = Event.entryId || event.id = masterCommsId || event.id = Event.selfId ||
    (event.id = Event.timerId && event.p8 = timer)

theorem passes_over (idle : concerns agent.body.timer event = false) :
    Core.PlaysOnly (Machine.handle event agent) core (.stay, agent) core := by
  simp only [concerns, Bool.or_eq_false_iff, Bool.and_eq_false_iff, decide_eq_false_iff_not] at idle
  obtain ⟨⟨⟨entry, comms⟩, self⟩, timeout⟩ := idle
  by_cases awake : agent.context.state = running
  · rw [handle_running awake, handleRunning, if_neg (not_or.mpr ⟨entry, comms⟩), if_neg self,
      if_neg fun both => timeout.elim (· both.1) (· both.2)]
    exact .done
  by_cases listening : agent.context.state = lost
  · rw [handle_lost listening, handleLost, if_neg entry, if_neg comms]
    exact .done
  · rw [handle_elsewhere awake listening]
    exact .done

/-- No supervisor does anything on leaving a state. -/
theorem concerns_exit (timer : UInt8) : concerns timer .exit = false := by
  simp [concerns, Event.exit, Event.exitId, Event.entryId, Event.selfId, Event.timerId,
    masterCommsId, Event.firstApplicationId]

/-- Of all timeouts only those of its own timer concern a supervisor. -/
theorem concerns_timeout (timer index : UInt8) (cookie : UInt16) :
    concerns timer (.timeout index cookie) = decide (index = timer) := by
  have others : Event.timerId ≠ Event.entryId ∧ Event.timerId ≠ masterCommsId ∧
      Event.timerId ≠ Event.selfId := by decide
  simp only [concerns, Event.timeout, others, decide_false, decide_true, Bool.false_or,
    Bool.true_and]
  rfl

/-- No event of the application but the request from the master concerns a supervisor. -/
theorem concerns_above (timer : UInt8) {event : Event} (above : masterCommsId < event.id) :
    concerns timer event = false := by
  have other : ∀ id : UInt8, id ≤ masterCommsId → event.id ≠ id := by
    rintro id low rfl
    exact absurd above (Nat.not_lt.mpr low)
  simp [concerns, other Event.entryId (by decide), other masterCommsId (by decide),
    other Event.selfId (by decide), other Event.timerId (by decide)]

/-- A supervisor that is put into its first state sends itself an event. -/
theorem start_only (id : UInt8) : Core.PlaysOnly (agent.start id) core
    { agent with context := { state := running, id } } (core.publish .front (.toSelf id)).2 :=
  .bind (.note _) (.notify (posts_running rfl (.inl rfl)))

/-! ### What becomes of an offered event -/

/-- Whether a supervisor reacts to a request from the master. -/
def listens (agent : Agent Supervisor) : Bool :=
  agent.context.state = running || agent.context.state = lost

/-- The supervisor after a request from the master. -/
def roused (agent : Agent Supervisor) : Agent Supervisor :=
  if agent.context.state = lost then inState running agent else agent

theorem dispatch_idle (idle : concerns agent.body.timer event = false) :
    ∃ given, Core.PlaysOnly (agent.dispatch event) core (given, agent) core := by
  cases admitted : core.admits event agent with
  | true =>
    exact ⟨true, .dispatch admitted (.deliver_stay (passes_over idle))⟩
  | false => exact ⟨false, .dispatch_of_not_admits admitted⟩

/-- A request from the master makes a supervisor send itself an event, if the queue has room. -/
theorem dispatch_comms (sign : event.id = masterCommsId) :
    Core.PlaysOnly (agent.dispatch event) core (true, roused agent)
      (if listens agent then (core.publish .front (.toSelf agent.context.id)).2 else core) := by
  have admitted : core.admits event agent = true := by
    have other : event.id ≠ Event.timerId ∧ event.id ≠ Event.selfId := by
      rw [sign]
      decide
    simp [Core.admits, other]
  refine .dispatch admitted ?_
  by_cases awake : agent.context.state = running
  · rw [roused, if_neg (by rw [awake]; exact running_ne_lost), if_pos (by simp [listens, awake])]
    exact .deliver_stay (posts_running awake (.inr sign))
  by_cases listening : agent.context.state = lost
  · rw [roused, if_pos listening, if_pos (by simp [listens, listening])]
    exact .deliver_moveTo (leaves_lost listening sign)
      (.moveTo (passes_over (concerns_exit _)) (posts_running rfl (.inl rfl)))
  · rw [roused, if_neg listening, if_neg (by simp [listens, awake, listening])]
    refine .deliver_stay ?_
    rw [handle_elsewhere awake listening]
    exact .done

/-- An event that another machine has sent to itself passes a supervisor by. -/
theorem dispatch_toSelf_other {id : UInt8} (other : agent.context.id ≠ id) :
    Core.PlaysOnly (agent.dispatch (.toSelf id)) core (false, agent) core :=
  .dispatch_of_not_admits (by
    simp [Core.admits, Event.toSelf, Event.selfId, Event.timerId, other.symm])

/-- The event that a supervisor has sent to itself makes it start its timer. -/
theorem dispatch_toSelf_running {id : UInt8} (here : agent.context.state = running)
    (own : agent.context.id = id) :
    Core.PlaysOnly (agent.dispatch (.toSelf id)) core (true, setLight .healthy agent)
      (core.startTimer agent.body.timer (core.config.ticksIn patience)).2 :=
  .dispatch (by simp [Core.admits, Event.toSelf, Event.selfId, Event.timerId, own])
    (.deliver_stay (rearms_running here rfl))

/-- The timeout of the last start of its timer tells a supervisor that the master is lost. -/
theorem dispatch_timeout_running {cookie : UInt16} (here : agent.context.state = running)
    (current : core.timers.isCurrent (.timeout agent.body.timer cookie) = true) :
    Core.PlaysOnly (agent.dispatch (.timeout agent.body.timer cookie)) core
      (true, setLight .noMaster (inState lost agent)) core :=
  .dispatch (by simpa [Core.admits, Event.timeout, Event.timerId] using current)
    (.deliver_moveTo (leaves_running here rfl rfl)
      (.moveTo (passes_over (concerns_exit _)) (shows_lost rfl rfl)))

end BusNode.Supervisor
