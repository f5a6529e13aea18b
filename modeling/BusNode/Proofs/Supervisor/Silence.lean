/-
This file proves what becomes of a supervisor while its master is silent. Whatever else is
published, started or handed out in between, its timer runs out at one of the ticks. If the queue
has room for the timeout then, the supervisor knows that the master is lost as soon as the queue is
drained. If not, it never learns of it, however often the queue is drained.
-/
import BusNode.Node
import BusNode.Proofs.Reactor.Session
import BusNode.Proofs.Supervisor.Phase
import BusNode.Sim.Bench
import BusNode.Sim.Wire

namespace BusNode.Supervisor

open Reactor (Core Move Session)

variable {queueDepth traceDepth : Depth} {timerCount : Nat}

/-! ### Silence -/

section Runs

variable {World : Type}

/-- Moves that bring no sign of the master and leave a timer alone. -/
def Silent (timer : UInt8) : Move World → Prop
  | .publish _ event => masterCommsId < event.id
  | .startTimer index _ | .stopTimer index => index ≠ timer
  | .launch _ _ => False
  | .tick | .drain _ | .meanwhile _ => True

/-- Whether a move is a tick. -/
def isTick : Move World → Bool
  | .tick => true
  | _ => false

theorem eq_tick {move : Move World} (ticks : isTick move = true) : move = .tick := by
  cases move with
  | tick => rfl
  | _ => cases ticks

variable {watcher : Agent Supervisor} {cookie : UInt16} {phase : Phase}
  {session : Session Supervisor World queueDepth traceDepth timerCount}

/-- A supervisor that has the reactor to itself and whose timer is running, with nothing left to
hand out. -/
structure Watches (watcher : Agent Supervisor)
    (session : Session Supervisor World queueDepth traceDepth timerCount) : Prop where
  agents : session.agents = [watcher]
  awake : watcher.context.state = running
  counting : session.reactor.timers.remaining watcher.body.timer ≠ 0
  drained : session.reactor.queue.toList = []
  named : session.reactor.timers.Named

/-- The silence begins with the ticks that the timer has left. -/
theorem Watches.holds (watches : Watches watcher session) :
    ∃ cookie, (Phase.counting (session.reactor.timers.remaining watcher.body.timer)).Holds watcher
      cookie session.agents session.core := by
  obtain ⟨cookie, held⟩ := TimerBank.timer?_of_remaining watches.counting
  refine ⟨cookie, watches.agents, held, ?_, watches.named⟩
  rw [Session.core_waiting, watches.drained]
  rfl

/-! ### Runs -/

variable [Clock World] [Journal World]

/-- Nothing is published while events are handed out, so the queue empties. -/
theorem Phase.Holds.drain (awake : watcher.context.state = running)
    (holds : phase.Holds watcher cookie session.agents session.core) (budget : Nat) :
    ∃ settled : Phase, phase.Settles settled ∧
      settled.Holds watcher cookie (session.move (.drain budget)).agents
        (session.move (.drain budget)).core ∧
      (session.core.waiting.length ≤ budget →
        (session.move (.drain budget)).core.waiting = []) := by
  -- No supervisor that is offered an event here publishes one, so a budget that is enough for what
  -- waits stays enough.
  obtain ⟨left, ⟨settled, settles, kept, fewer⟩, ended⟩ := Reactor.runPending_induction
    (motive := fun left agents core => ∃ settled : Phase, phase.Settles settled ∧
      settled.Holds watcher cookie agents core ∧
        (session.core.waiting.length ≤ budget → core.waiting.length ≤ left))
    (by
      rintro left agents later core last event waiting next offered ⟨settled, settles, holds, fewer⟩
      obtain ⟨after, onward, holds, rfl⟩ := holds.offers awake next offered
      rw [next, List.length_cons] at fewer
      exact ⟨after, settles.trans onward, holds,
        fun enough => Nat.le_of_succ_le_succ (fewer enough)⟩)
    ⟨phase, .inl rfl, holds, id⟩ session.world
  refine ⟨settled, settles, kept, fun enough => ?_⟩
  obtain rfl | empty := ended
  · exact List.eq_nil_of_length_eq_zero (Nat.le_zero.mp (fewer enough))
  · exact empty

theorem Phase.Holds.move (awake : watcher.context.state = running)
    (holds : phase.Holds watcher cookie session.agents session.core) {move : Move World}
    (silent : Silent watcher.body.timer move) (other : isTick move = false) :
    ∃ settled : Phase, phase.Settles settled ∧
      settled.Holds watcher cookie (session.move move).agents (session.move move).core := by
  cases move with
  | publish place event =>
    refine ⟨phase, .inl rfl, ?_⟩
    rw [Session.core_publish]
    exact holds.publish place (concerns_above _ silent)
  | startTimer index ticks =>
    refine ⟨phase, .inl rfl, ?_⟩
    rw [Session.core_startTimer]
    exact holds.startTimer silent ticks
  | stopTimer index =>
    refine ⟨phase, .inl rfl, ?_⟩
    rw [Session.core_stopTimer]
    exact holds.stopTimer silent
  | tick => cases other
  | drain budget =>
    obtain ⟨settled, settles, holds, -⟩ := holds.drain awake budget
    exact ⟨settled, settles, holds⟩
  | launch place id => exact silent.elim
  | meanwhile change => exact ⟨phase, .inl rfl, holds⟩

theorem Phase.Holds.move_tick
    (holds : phase.Holds watcher cookie session.agents session.core)
    (running : phase ≠ .counting 0) :
    (phase.next (HasRoom watcher.body.timer session.core)).Holds watcher cookie
      (session.move .tick).agents (session.move .tick).core := by
  rw [Session.core_tick]
  exact holds.tick running

/-- Once the timer has run out, all that can still happen is that the timeout is handed out. -/
theorem Phase.Holds.run (awake : watcher.context.state = running)
    (holds : phase.Holds watcher cookie session.agents session.core)
    (ended : ∀ left, phase ≠ .counting left) {moves : List (Move World)}
    (silent : ∀ move ∈ moves, Silent watcher.body.timer move) :
    ∃ settled : Phase, phase.Settles settled ∧
      settled.Holds watcher cookie (session.run moves).agents (session.run moves).core := by
  induction moves generalizing phase session with
  | nil => exact ⟨phase, .inl rfl, holds⟩
  | cons first rest inductionHypothesis =>
    obtain ⟨now, later⟩ := List.forall_mem_cons.mp silent
    cases ticks : isTick first with
    | true =>
      obtain rfl := eq_tick ticks
      have ticked := holds.move_tick (ended 0)
      have same : phase.next (HasRoom watcher.body.timer session.core) = phase := by
        cases phase with
        | counting left => exact absurd rfl (ended left)
        | rung | noticed | missed => rfl
      rw [same] at ticked
      exact inductionHypothesis ticked ended later
    | false =>
      obtain ⟨after, settles, holds⟩ := holds.move awake now ticks
      have still : ∀ left, after ≠ .counting left := by
        rintro left rfl
        obtain same | ⟨-, same⟩ := settles
        · exact ended left same.symm
        · cases same
      obtain ⟨last, onward, holds⟩ := inductionHypothesis holds still later
      exact ⟨last, settles.trans onward, holds⟩

/-- The timer runs out at one of the ticks if there are enough of them. -/
theorem Phase.Holds.last_tick (awake : watcher.context.state = running) {left : UInt16}
    (more : left ≠ 0)
    (holds : (Phase.counting left).Holds watcher cookie session.agents session.core)
    {moves : List (Move World)} (silent : ∀ move ∈ moves, Silent watcher.body.timer move)
    (enough : left.toNat ≤ moves.countP isTick) :
    ∃ before after, moves = before ++ .tick :: after ∧
      (Phase.counting 1).Holds watcher cookie (session.run before).agents
        (session.run before).core := by
  induction moves generalizing left session with
  | nil => exact absurd (UInt16.toNat_inj.mp (Nat.le_zero.mp enough)) more
  | cons first rest inductionHypothesis =>
    obtain ⟨now, later⟩ := List.forall_mem_cons.mp silent
    cases ticks : isTick first with
    | true =>
      obtain rfl := eq_tick ticks
      by_cases last : left = 1
      · subst last
        exact ⟨[], rest, rfl, holds⟩
      · have ticked := holds.move_tick fun none => more (Phase.counting.inj none)
        rw [next, if_neg last] at ticked
        have fewer : (left - 1).toNat + 1 = left.toNat := by
          have positive : left.toNat ≠ 0 := fun none => more (UInt16.toNat_inj.mp none)
          have small := left.toNat_lt
          rw [UInt16.toNat_sub, UInt16.toNat_one]
          omega
        have still : left - 1 ≠ 0 := by
          intro none
          rw [none] at fewer
          exact last (UInt16.toNat_inj.mp fewer.symm)
        rw [List.countP_cons_of_pos rfl, ← fewer] at enough
        obtain ⟨before, after, rfl, holds⟩ :=
          inductionHypothesis still ticked later (Nat.le_of_succ_le_succ enough)
        exact ⟨.tick :: before, after, rfl, holds⟩
    | false =>
      obtain ⟨settled, rfl | ⟨rung, -⟩, holds⟩ := holds.move awake now ticks
      · rw [List.countP_cons_of_neg (by simp [ticks])] at enough
        obtain ⟨before, after, rfl, holds⟩ := inductionHypothesis more holds later enough
        exact ⟨first :: before, after, rfl, holds⟩
      · cases rung

/-- Nothing is left of the silence once the queue is drained but whether it was noticed. -/
theorem Phase.Holds.outcome (awake : watcher.context.state = running)
    (holds : phase.Holds watcher cookie session.agents session.core)
    (ended : ∀ left, phase ≠ .counting left) {moves : List (Move World)} {budget : Nat}
    (silent : ∀ move ∈ moves, Silent watcher.body.timer move)
    (ready : (session.run moves).core.waiting.length ≤ budget) :
    ((session.run moves).move (.drain budget)).core.waiting = [] ∧
      ((session.run moves).move (.drain budget)).agents =
        [Phase.agent watcher (if phase = .rung then .noticed else phase)] := by
  obtain ⟨settled, settles, held⟩ := holds.run awake ended silent
  obtain ⟨drained, onward, left, emptied⟩ := held.drain awake budget
  refine ⟨emptied ready, left.agents.trans ?_⟩
  have other : drained ≠ .rung := by
    -- The timeout would still wait, but nothing does.
    rintro rfl
    have waiting := left.waiting
    rw [emptied ready] at waiting
    cases waiting
  obtain rfl | ⟨rfl, rfl⟩ := settles.trans onward
  · rw [if_neg other]
  · rw [if_pos rfl]

/-- A supervisor that is put into its first state on a reactor of its own sends itself an event. -/
theorem launch_single {agent : Agent Supervisor} (alone : session.agents = [agent])
    (empty : session.reactor.queue.toList = []) (id : UInt8) :
    (session.move (.launch 0 id)).agents = [{ agent with context := { state := running, id } }] ∧
      (session.move (.launch 0 id)).core = { session.core with waiting := [.toSelf id] } := by
  have there : session.agents[0]? = some agent := by
    rw [alone]
    rfl
  have room : session.core.waiting.length < queueDepth.size := by
    rw [Session.core_waiting, empty]
    exact queueDepth.size_pos
  obtain ⟨agents, core⟩ := session.move_launch there (start_only id)
  rw [Core.publish_of_room rfl .front room, Session.core_waiting, empty] at core
  rw [alone] at agents
  exact ⟨agents, core⟩

/-- A supervisor that is put into its first state on a reactor of its own sets its light, and its
timer starts to count. -/
theorem watches_launch {agent : Agent Supervisor} (alone : session.agents = [agent])
    (empty : session.reactor.queue.toList = [])
    (inside : agent.body.timer.toNat < timerCount) (named : session.reactor.timers.Named)
    (id : UInt8) (budget : Nat) :
    Watches (setLight .healthy { agent with context := { state := running, id } })
      (session.run [.launch 0 id, .drain (budget + 1)]) := by
  obtain ⟨agents, launched⟩ := launch_single alone empty id
  rw [Session.run_cons, Session.run_cons]
  generalize session.move (.launch 0 id) = middle at agents launched ⊢
  have next : middle.core.waiting = [.toSelf id] := congrArg Core.waiting launched
  obtain ⟨later, offers, drained⟩ := middle.move_drain_of_cons next
  have bare : ({ middle.core with waiting := [] } : Core queueDepth timerCount) = session.core := by
    rw [launched, ← empty]
    rfl
  have only : Core.PlaysOnly
      (Agent.dispatch (.toSelf id) { agent with context := { state := running, id } }) session.core
      _ _ := dispatch_toSelf_running rfl rfl
  rw [agents, bare] at offers
  obtain ⟨shown, started⟩ := only.offers_single offers
  have rearmed := rearmed inside session.core
  rw [← started] at rearmed
  have quiet : later.core.waiting = [] := rearmed.waiting.trans empty
  rw [drained, later.move_drain_of_nil quiet]
  refine ⟨shown, rfl, ?_, quiet, rearmed.named named⟩
  have counting : later.reactor.timers.remaining agent.body.timer =
      session.reactor.config.ticksIn patience := TimerBank.remaining_of_timer? rearmed.timer
  exact fun none => ticksIn_patience_ne_zero _ (counting.symm.trans none)

/-- The timer of a supervisor runs out at one of the ticks among some moves. If the queue has room
for the timeout then, a drain after the moves shows the supervisor that the master is lost. If not,
the drain empties the queue, and the supervisor is what it was. -/
def NoticedIfRoom (watcher : Agent Supervisor)
    (session : Session Supervisor World queueDepth traceDepth timerCount)
    (moves : List (Move World)) (budget : Nat) : Prop :=
  ∃ before after, moves = before ++ .tick :: after ∧
    (session.run before).reactor.timers.remaining watcher.body.timer = 1 ∧
    ((session.run moves).move (.drain budget)).reactor.queue.toList = [] ∧
    ((session.run moves).move (.drain budget)).agents =
      [if HasRoom watcher.body.timer (session.run before).core then
        setLight .noMaster (inState lost watcher)
      else watcher]

/-- The silence of a master is noticed exactly if the queue has room for the timeout at the tick at
which the timer runs out. -/
theorem silence_noticed_iff_room {moves : List (Move World)} {budget : Nat}
    (watches : Watches watcher session) (silent : ∀ move ∈ moves, Silent watcher.body.timer move)
    (enough : (session.reactor.timers.remaining watcher.body.timer).toNat ≤ moves.countP isTick)
    (ready : (session.run moves).reactor.queue.toList.length ≤ budget) :
    NoticedIfRoom watcher session moves budget := by
  obtain ⟨cookie, holds⟩ := watches.holds
  have awake := watches.awake
  obtain ⟨before, after, rfl, last⟩ := holds.last_tick awake watches.counting silent enough
  have remaining : (session.run before).reactor.timers.remaining watcher.body.timer = 1 :=
    TimerBank.remaining_of_timer? last.timer
  have later : ∀ move ∈ after, Silent watcher.body.timer move := fun move member =>
    silent move (List.mem_append_right _ (List.mem_cons_of_mem _ member))
  have ticked := last.move_tick (by decide)
  have ended : ∀ room left, Phase.next room (.counting 1) ≠ .counting left := by
    intro room left same
    cases room <;> cases same
  rw [NoticedIfRoom]
  rw [Session.run_append, Session.run_cons] at ready ⊢
  obtain ⟨emptied, agents⟩ := ticked.outcome awake (ended _) later ready
  refine ⟨before, after, rfl, remaining, emptied, agents.trans ?_⟩
  by_cases room : HasRoom watcher.body.timer (session.run before).core
  · rw [decide_eq_true room, if_pos room]
    rfl
  · rw [decide_eq_false room, if_neg room]
    rfl

end Runs

/-- A supervisor on a node of the usual size, before it is started. -/
def freshNode :
    Session Supervisor (Sim.Bench Sim.Wire) Node.queueDepth Node.traceDepth Node.timerCount :=
  { agents := [{ body := {} }], reactor := .idle {}, world := { line := {} } }

/-- The same supervisor once it has been started. -/
def startedNode :
    Session Supervisor (Sim.Bench Sim.Wire) Node.queueDepth Node.traceDepth Node.timerCount :=
  freshNode.run [.launch 0 1, .drain 1]

/-- The machine that has been started. -/
def startedAgent : Agent Supervisor :=
  setLight .healthy { context := { state := running, id := 1 }, body := {} }

theorem watches_startedNode : Watches startedAgent startedNode := by
  have alone : freshNode.agents = [{ body := {} }] := rfl
  exact watches_launch alone (by decide +kernel) (by decide) TimerBank.named_idle 1 0

/-- Four seconds of silence. The queue is drained after every tick, but some events of the
application come in just before the last one. -/
def fourSilentSeconds (events : Nat) : List (Move (Sim.Bench Sim.Wire)) :=
  (List.replicate 39 [.tick, .drain 8]).flatten ++
    List.replicate events (.publish .back { id := 11 }) ++ [.tick]

theorem silent_fourSilentSeconds (events : Nat) :
    ∀ move ∈ fourSilentSeconds events, Silent 0 move := by
  intro move member
  simp only [fourSilentSeconds, List.mem_append, List.mem_flatten, List.mem_replicate,
    List.mem_singleton] at member
  obtain (⟨round, ⟨-, rfl⟩, member⟩ | ⟨-, rfl⟩) | rfl := member
  · simp only [List.mem_cons, List.not_mem_nil, or_false] at member
    obtain rfl | rfl := member <;> trivial
  · exact (by decide : masterCommsId < 11)
  · trivial

/-- Seven events leave room for the timeout, and the silence is noticed. -/
theorem silence_noticed_among_seven :
    Watches startedAgent startedNode ∧
      (startedNode.reactor.timers.remaining 0).toNat ≤ (fourSilentSeconds 7).countP isTick ∧
      (startedNode.run (fourSilentSeconds 7)).reactor.queue.toList.length ≤ 8 ∧
      NoticedIfRoom startedAgent startedNode (fourSilentSeconds 7) 8 ∧
      ((startedNode.run (fourSilentSeconds 7)).move (.drain 8)).agents =
        [setLight .noMaster (inState lost startedAgent)] := by
  have enough : (startedNode.reactor.timers.remaining 0).toNat ≤
      (fourSilentSeconds 7).countP isTick := by
    decide +kernel
  have ready : (startedNode.run (fourSilentSeconds 7)).reactor.queue.toList.length ≤ 8 := by
    decide +kernel
  exact ⟨watches_startedNode, enough, ready,
    silence_noticed_iff_room watches_startedNode (silent_fourSilentSeconds 7) enough ready,
    by decide +kernel⟩

/-- Eight events fill the queue, and the silence is never noticed, although the timer has run out
and the queue is drained. -/
theorem silence_missed_behind_eight :
    Watches startedAgent startedNode ∧ (∀ move ∈ fourSilentSeconds 8, Silent 0 move) ∧
      (startedNode.reactor.timers.remaining 0).toNat ≤ (fourSilentSeconds 8).countP isTick ∧
      ((startedNode.run (fourSilentSeconds 8)).move (.drain 8)).reactor.queue.toList = [] ∧
      ((startedNode.run (fourSilentSeconds 8)).move (.drain 8)).reactor.timers.remaining 0 = 0 ∧
      ((startedNode.run (fourSilentSeconds 8)).move (.drain 8)).agents = [startedAgent] := by
  exact ⟨watches_startedNode, silent_fourSilentSeconds 8, by decide +kernel, by decide +kernel,
    by decide +kernel, by decide +kernel⟩

end BusNode.Supervisor
