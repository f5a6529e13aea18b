/-
This file proves that the state of a supervisor, its light and its timer agree after every drain.
Whatever is published at either end of the queue, timeouts that nobody's timer has said among it,
and however often the timers are served in between: when the queue is empty, the supervisor either
takes the master to be there, shows it and has its timer counting, or has lost it and shows that.

That the queue never refuses an event is needed. The supervisor starts its timer in answer to an
event that it sends to itself, and if that is refused, the timer stands still.
-/
import BusNode.Proofs.Supervisor.Silence
import BusNode.Proofs.Supervisor.Standing
import BusNode.Proofs.Timer.Cookie

namespace BusNode.Supervisor

open Reactor (Core Happening Move Session)

variable {queueDepth traceDepth : Depth} {timerCount : Nat}

/-! ### Operations -/

namespace Stands

variable {agent : Agent Supervisor} {core : Core queueDepth timerCount}

theorem publish (stands : Stands agent core) (place : QueueEnd) (event : Event) :
    Stands agent (core.publish place event).2 := by
  refine stands.mono (fun _ waits => Core.mem_publish place event waits) ?_ ?_
  · rw [Core.timers_publish]
  · rw [Core.config_publish]

theorem startTimer (stands : Stands agent core) {index : UInt8}
    (other : index ≠ agent.body.timer) (ticks : UInt16) :
    Stands agent (core.startTimer index ticks).2 := by
  unfold Core.startTimer
  cases start : core.timers.start? index ticks with
  | none => exact stands
  | some started =>
    obtain ⟨cookie, emissions, timers⟩ := started
    refine stands.mono (fun _ waits => Core.mem_emitAll emissions waits) ?_ ?_
    · rw [Core.timers_emitAll]
      exact TimerBank.timer?_start_other other.symm start
    · rw [Core.config_emitAll]

theorem stopTimer (stands : Stands agent core) {index : UInt8}
    (other : index ≠ agent.body.timer) : Stands agent (core.stopTimer index) := by
  refine stands.mono (fun _ waits => Core.mem_emitAll _ waits) ?_ ?_
  · rw [Core.stopTimer, Core.timers_emitAll]
    exact TimerBank.timer?_stop_other other.symm
  · rw [Core.stopTimer, Core.config_emitAll]

/-- With a tick the timer of a supervisor counts on, or runs out and its timeout is queued. -/
theorem tick (stands : Stands agent core)
    (granted : ∀ happening ∈ core.tickHappenings, happening.refused = false) :
    Stands agent core.tick := by
  have waiting := Core.tick_of_granted granted
  have kept : ∀ event ∈ core.waiting, event ∈ core.tick.waiting := fun event waits => by
    rw [waiting]
    exact List.mem_append_left _ waits
  have timers : core.tick.timers = core.timers.tick.2 := Core.timers_emitAll _ _
  have config : core.tick.config = core.config := Core.config_emitAll _ _
  cases stands with
  | deserted state shown => exact .deserted state shown
  | sent state waits self own => exact .sent state (kept _ waits) self own
  | rung state waits timeout own current =>
    refine .rung state (kept _ waits) timeout own ?_
    rw [timers, TimerBank.isCurrent, TimerBank.cookie?_tick]
    exact current
  | counting state shown left within =>
    obtain ⟨cookie, held, ticked⟩ := TimerBank.timer?_tick_of_remaining left
    rw [← timers] at ticked
    by_cases last : core.timers.remaining agent.body.timer = 1
    · have rings : .timeout agent.body.timer cookie ∈ core.tick.waiting := by
        rw [waiting]
        exact List.mem_append_right _
          (TimerBank.timeout_mem_expiring held (decide_eq_true last))
      refine .rung state rings rfl rfl ?_
      simp [TimerBank.isCurrent, TimerBank.cookie?, Event.timeout, ticked]
    · have counted : core.tick.timers.remaining agent.body.timer =
          core.timers.remaining agent.body.timer - 1 := TimerBank.remaining_of_timer? ticked
      have fewer := TimerBank.toNat_ticks_sub_one left
      refine .counting state shown ?_ ?_
      · intro none
        rw [← counted, none] at fewer
        exact last (UInt16.toNat_inj.mp fewer.symm)
      · rw [counted, config]
        rw [UInt16.le_iff_toNat_le] at within ⊢
        omega

end Stands

section Runs

variable {World : Type} [Clock World] [Journal World]

/-! ### Drains -/

/-- What becomes of a supervisor that has the reactor to itself when the next event is handed out. -/
theorem Stands.offer {agent : Agent Supervisor} (inside : agent.body.timer.toNat < timerCount)
    {reactor rest : Reactor queueDepth traceDepth timerCount} {event : Event}
    (stands : Stands agent reactor.core) (next : reactor.next? = some (event, rest)) (world : World)
    (granted : ∀ happening ∈ Reactor.playHistory (agent.dispatch event) rest world,
      happening.refused = false) :
    ∃ after, (rest.offer event [agent] world).1.1 = [after] ∧
      Follows agent reactor.core after (rest.offer event [agent] world).1.2.core := by
  obtain ⟨waits, left⟩ := Reactor.core_of_next? next
  obtain ⟨flag, after, last, only, follows⟩ := stands.follows waits inside
    fun happening brings => granted happening (brings _ _ rest world left)
  rw [← left] at only
  obtain ⟨result, core⟩ := rest.play_only only world
  have handled : (rest.offer event [agent] world).1.1 = [after] :=
    congrArg (fun outcome : Bool × Agent Supervisor => [outcome.2]) result
  have reached : (rest.offer event [agent] world).1.2.core = last := core
  exact ⟨after, handled, reached ▸ follows⟩

/-- A supervisor that has the reactor to itself stands again after every event that is handed out,
and one that is ready for enough of them empties the queue. -/
theorem stands_runPending {agent : Agent Supervisor} (inside : agent.body.timer.toNat < timerCount)
    {reactor : Reactor queueDepth traceDepth timerCount} (stands : Stands agent reactor.core)
    (name budget : Nat) (world : World)
    (granted : ∀ happening ∈ Reactor.pendingHistory [name] budget [agent] reactor world,
      happening.refused = false) :
    ∃ after, (reactor.runPending budget [agent] world).1.2.1 = [after] ∧
      after.body.timer = agent.body.timer ∧
      Stands after (reactor.runPending budget [agent] world).1.2.2.core ∧
      (burden reactor.core.waiting ≤ budget →
        (reactor.runPending budget [agent] world).1.2.2.core.waiting = []) := by
  induction budget generalizing agent reactor world with
  | zero =>
    refine ⟨agent, rfl, rfl, stands, fun none => ?_⟩
    exact List.eq_nil_of_length_eq_zero (Nat.le_zero.mp (Nat.le_trans (Nat.le_add_right _ _) none))
  | succ budget inductionHypothesis =>
    rw [Reactor.pendingHistory] at granted
    rw [Reactor.runPending]
    cases next : reactor.next? with
    | none => exact ⟨agent, rfl, rfl, stands, fun _ => (Reactor.next?_eq_none_iff reactor).mp next⟩
    | some pair =>
      obtain ⟨event, rest⟩ := pair
      rw [next] at granted
      obtain ⟨offered, later⟩ := List.forall_mem_append.mp granted
      obtain ⟨after, handled, follows⟩ := stands.offer inside next world fun happening member =>
        offered happening (List.mem_cons_of_mem _
          (List.mem_append_left _ (List.mem_append_right _ member)))
      have later : ∀ happening ∈ Reactor.pendingHistory [name] budget [after]
          (rest.offer event [agent] world).1.2 (rest.offer event [agent] world).2,
          happening.refused = false := by
        rw [← handled]
        exact later
      obtain ⟨final, same, timer, settled, emptied⟩ := inductionHypothesis
        (follows.timer.symm ▸ inside) follows.stands (rest.offer event [agent] world).2 later
      rw [← handled] at same settled emptied
      refine ⟨final, same, timer.trans follows.timer, settled, fun enough => emptied ?_⟩
      exact Nat.le_of_lt_succ (Nat.lt_of_lt_of_le follows.lighter enough)

/-! ### Runs -/

/-- Moves that leave a timer to the supervisor it belongs to. -/
def Leaves (timer : UInt8) : Move World → Prop
  | .startTimer index _ | .stopTimer index => index ≠ timer
  | .launch _ _ => False
  | .publish _ _ | .tick | .drain _ | .meanwhile _ => True

/-- A supervisor has the reactor to itself, with a timer that there is, and stands. -/
structure Attended (timer : UInt8)
    (session : Session Supervisor World queueDepth traceDepth timerCount) : Prop where
  inside : timer.toNat < timerCount
  attends : ∃ agent, session.agents = [agent] ∧ agent.body.timer = timer ∧ Stands agent session.core

namespace Attended

variable {timer : UInt8} {session : Session Supervisor World queueDepth traceDepth timerCount}

theorem launch {agent : Agent Supervisor} (alone : session.agents = [agent])
    (inside : agent.body.timer.toNat < timerCount) (name : Nat) (id : UInt8)
    (granted : ∀ happening ∈ session.happenings [name] (.launch 0 id), happening.refused = false) :
    Attended agent.body.timer (session.move (.launch 0 id)) := by
  have there : session.agents[0]? = some agent := by rw [alone]; rfl
  obtain ⟨agents, core⟩ := session.move_launch there (start_only id)
  refine ⟨inside, { agent with context := { state := running, id } }, ?_, rfl, ?_⟩
  · rw [agents, alone]
    rfl
  · have sent : (session.core.publish .front (.toSelf id)).1 = true := by
      rw [Session.happenings, there] at granted
      exact Happening.queued_of_granted
        (granted _ (brings_start id traceDepth World session.reactor session.world rfl))
    rw [core, Core.publish_of_granted rfl .front sent]
    exact .sent rfl List.mem_cons_self rfl rfl

theorem drain (attended : Attended timer session) (name budget : Nat)
    (granted : ∀ happening ∈ session.happenings [name] (.drain budget),
      happening.refused = false) :
    Attended timer (session.move (.drain budget)) ∧
      (2 * session.core.waiting.length ≤ budget →
        (session.move (.drain budget)).core.waiting = []) := by
  obtain ⟨inside, agent, alone, rfl, stands⟩ := attended
  rw [Session.happenings, alone] at granted
  obtain ⟨after, agents, timer, settled, emptied⟩ :=
    stands_runPending inside stands name budget session.world granted
  rw [← alone] at agents settled emptied
  exact ⟨⟨inside, after, agents, timer, settled⟩,
    fun enough => emptied (Nat.le_trans (burden_le _) enough)⟩

theorem move (attended : Attended timer session) {move : Move World} (leaves : Leaves timer move)
    (name : Nat)
    (granted : ∀ happening ∈ session.happenings [name] move, happening.refused = false) :
    Attended timer (session.move move) := by
  cases move with
  | drain budget => exact (attended.drain name budget granted).1
  | launch place id => exact leaves.elim
  | publish place event =>
    obtain ⟨inside, agent, alone, rfl, stands⟩ := attended
    refine ⟨inside, agent, alone, rfl, ?_⟩
    rw [Session.core_publish]
    exact stands.publish place event
  | startTimer index ticks =>
    obtain ⟨inside, agent, alone, rfl, stands⟩ := attended
    refine ⟨inside, agent, alone, rfl, ?_⟩
    rw [Session.core_startTimer]
    exact stands.startTimer leaves ticks
  | stopTimer index =>
    obtain ⟨inside, agent, alone, rfl, stands⟩ := attended
    refine ⟨inside, agent, alone, rfl, ?_⟩
    rw [Session.core_stopTimer]
    exact stands.stopTimer leaves
  | tick =>
    obtain ⟨inside, agent, alone, rfl, stands⟩ := attended
    refine ⟨inside, agent, alone, rfl, ?_⟩
    rw [Session.core_tick]
    exact stands.tick granted
  | meanwhile change => exact ⟨attended.inside, attended.attends⟩

theorem run (attended : Attended timer session) {moves : List (Move World)}
    (leaves : ∀ move ∈ moves, Leaves timer move) (name : Nat)
    (granted : ∀ happening ∈ session.history [name] moves, happening.refused = false) :
    Attended timer (session.run moves) := by
  induction moves generalizing session with
  | nil => exact attended
  | cons first rest inductionHypothesis =>
    obtain ⟨now, later⟩ := List.forall_mem_cons.mp leaves
    obtain ⟨granted, onward⟩ := List.forall_mem_append.mp granted
    exact inductionHypothesis (attended.move now name granted) later onward

end Attended

/-- The state of a supervisor, its light and its timer agree. -/
def Agrees (agent : Agent Supervisor)
    (reactor : Reactor queueDepth traceDepth timerCount) : Prop :=
  (agent.context.state = running ∧ agent.body.shown.getLast? = some .healthy ∧
    1 ≤ reactor.timers.remaining agent.body.timer ∧
    reactor.timers.remaining agent.body.timer ≤ reactor.config.ticksIn patience) ∨
  (agent.context.state = lost ∧ agent.body.shown.getLast? = some .noMaster)

/-- When nothing waits, a supervisor that stands is in agreement. -/
theorem Stands.agrees {agent : Agent Supervisor}
    {reactor : Reactor queueDepth traceDepth timerCount} (stands : Stands agent reactor.core)
    (empty : reactor.core.waiting = []) : Agrees agent reactor := by
  cases stands with
  | deserted state shown => exact .inr ⟨state, shown⟩
  | counting state shown left within =>
    refine .inl ⟨state, shown, ?_, within⟩
    rw [UInt16.le_iff_toNat_le, UInt16.toNat_one]
    exact Nat.one_le_iff_ne_zero.mpr fun none => left (UInt16.toNat_inj.mp none)
  | sent state waits => exact absurd (empty ▸ waits) List.not_mem_nil
  | rung state waits => exact absurd (empty ▸ waits) List.not_mem_nil

/-- A drain that is ready for enough events empties the queue, and when the queue is empty the
supervisor is in agreement. -/
structure Settles (session : Session Supervisor World queueDepth traceDepth timerCount)
    (budget : Nat) : Prop where
  empties : 2 * session.reactor.queue.toList.length ≤ budget →
    (session.move (.drain budget)).reactor.queue.toList = []
  agrees : (session.move (.drain budget)).reactor.queue.toList = [] →
    ∃ agent, (session.move (.drain budget)).agents = [agent] ∧
      Agrees agent (session.move (.drain budget)).reactor

/-- Once a supervisor has been started on a timer that nobody else touches, every drain brings its
state, its light and its timer in line, as long as nothing that is published is refused. -/
theorem agrees_after_every_drain {agent : Agent Supervisor}
    {session : Session Supervisor World queueDepth traceDepth timerCount}
    (alone : session.agents = [agent]) (inside : agent.body.timer.toNat < timerCount)
    (id : UInt8) {moves : List (Move World)} (leaves : ∀ move ∈ moves, Leaves agent.body.timer move)
    (budget : Nat)
    (granted : ∀ happening ∈ session.history [0] (.launch 0 id :: moves ++ [.drain budget]),
      happening.refused = false) :
    Settles (session.run (.launch 0 id :: moves)) budget := by
  rw [Session.history_append] at granted
  obtain ⟨before, drained⟩ := List.forall_mem_append.mp granted
  obtain ⟨launched, moved⟩ := List.forall_mem_append.mp before
  have attended : Attended agent.body.timer (session.run (.launch 0 id :: moves)) :=
    (Attended.launch alone inside 0 id launched).run leaves 0 moved
  rw [Session.history, Session.history, List.append_nil] at drained
  obtain ⟨settled, empties⟩ := attended.drain 0 budget drained
  refine ⟨empties, fun empty => ?_⟩
  obtain ⟨-, after, same, -, stands⟩ := settled
  exact ⟨after, same, stands.agrees empty⟩

end Runs

/-- A request gets ahead of the timeout of a timer that has just run out, and somebody publishes a
timeout by hand. After that there is silence. -/
def requestThenForgery : List (Move (Sim.Bench Sim.Wire)) :=
  [.drain 8] ++ List.replicate 40 .tick ++
    [.publish .front masterComms, .drain 1, .publish .back (.timeout 0 7), .drain 8] ++
    List.replicate 40 .tick

theorem agrees_when_disturbed :
    (∀ move ∈ requestThenForgery, Leaves 0 move) ∧
      (∀ happening ∈ freshNode.history [0] (.launch 0 1 :: requestThenForgery ++ [.drain 2]),
        happening.refused = false) ∧
      Settles (freshNode.run (.launch 0 1 :: requestThenForgery)) 2 ∧
      ((freshNode.run (.launch 0 1 :: requestThenForgery)).move (.drain 2)).agents.map
        (fun agent => (agent.context.state, agent.body.shown)) =
          [(lost, [.healthy, .healthy, .noMaster])] := by
  have leaves : ∀ move ∈ requestThenForgery, Leaves 0 move := by
    intro move member
    simp only [requestThenForgery, List.mem_append, List.mem_cons, List.mem_replicate,
      List.not_mem_nil, or_false] at member
    obtain ((rfl | ⟨-, rfl⟩) | rfl | rfl | rfl | rfl) | ⟨-, rfl⟩ := member <;> trivial
  have granted : ∀ happening ∈ freshNode.history [0]
      (.launch 0 1 :: requestThenForgery ++ [.drain 2]), happening.refused = false := by
    decide +kernel
  have alone : freshNode.agents = [{ body := {} }] := rfl
  exact ⟨leaves, granted, agrees_after_every_drain alone (by decide) 1 leaves 2 granted,
    by decide +kernel⟩

end BusNode.Supervisor
