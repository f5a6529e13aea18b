/-
This file follows machines on a reactor by its core alone. A script may ask for the time, and the
core does not know it; so a script can be played in several ways, one for each course of the time.
Whatever a reactor does when it plays a script, offers an event or hands out events is one of them.

So what every way keeps is kept by a reactor, and a script that never asks for the time is played in
one way only.
-/
import BusNode.Proofs.Reactor.Core

namespace BusNode.Reactor

variable {depth queueDepth traceDepth : Depth} {count timerCount : Nat} {α β : Type}

/-! ### Scripts -/

/-- The ways to play a script, with the result and the core after it. -/
inductive Core.Plays : Script α → Core depth count → α → Core depth count → Prop where
  | done {result : α} {core : Core depth count} : Plays (.done result) core result core
  | ask {service : Service} {next : service.Answer → Script α} {core last : Core depth count}
      {result : α} (now : UInt32)
      (rest : Plays (next (core.perform now service).1) (core.perform now service).2 result last) :
      Plays (.ask service next) core result last

namespace Core

variable {core last : Core depth count}

@[simp] theorem plays_done {result other : α} :
    Plays (.done result) core other last ↔ other = result ∧ last = core := by
  constructor
  · rintro ⟨⟩
    exact ⟨rfl, rfl⟩
  · rintro ⟨rfl, rfl⟩
    exact .done

@[simp] theorem plays_ask {service : Service} {next : service.Answer → Script α} {result : α} :
    Plays (.ask service next) core result last ↔ ∃ now,
      Plays (next (core.perform now service).1) (core.perform now service).2 result last := by
  constructor
  · rintro (_ | ⟨now, rest⟩)
    exact ⟨now, rest⟩
  · rintro ⟨now, rest⟩
    exact .ask now rest

@[simp] theorem plays_bind {script : Script α} {next : α → Script β} {result : β} :
    Plays (script >>= next) core result last ↔ ∃ middle between,
      Plays script core middle between ∧ Plays (next middle) between result last := by
  induction script generalizing core with
  | done middle => simp [and_assoc]
  | ask service rest inductionHypothesis =>
    rw [Script.ask_bind, plays_ask]
    constructor
    · rintro ⟨now, played⟩
      obtain ⟨middle, between, first, second⟩ := (inductionHypothesis _).mp played
      exact ⟨middle, between, .ask now first, second⟩
    · rintro ⟨middle, between, first, second⟩
      obtain ⟨now, rest⟩ := plays_ask.mp first
      exact ⟨now, (inductionHypothesis _).mpr ⟨middle, between, rest, second⟩⟩

/-! ### Scripts with one course -/

/-- There is one way only to play a script. -/
def PlaysOnly (script : Script α) (core : Core depth count) (result : α)
    (last : Core depth count) : Prop :=
  ∀ (other : α) (final : Core depth count),
    Plays script core other final ↔ other = result ∧ final = last

namespace PlaysOnly

theorem done {result : α} : PlaysOnly (.done result) core result core :=
  fun _ _ => plays_done

theorem bind {script : Script α} {next : α → Script β} {middle : α} {between : Core depth count}
    {result : β} (first : PlaysOnly script core middle between)
    (second : PlaysOnly (next middle) between result last) :
    PlaysOnly (script >>= next) core result last := by
  intro other final
  rw [plays_bind]
  constructor
  · rintro ⟨found, here, played, rest⟩
    obtain ⟨rfl, rfl⟩ := (first _ _).mp played
    exact (second _ _).mp rest
  · intro same
    exact ⟨middle, between, (first _ _).mpr ⟨rfl, rfl⟩, (second _ _).mpr same⟩

/-- Every service but the time is answered in one way. -/
theorem call {service : Service} {answer : service.Answer}
    (answers : ∀ now, core.perform now service = (answer, last)) :
    PlaysOnly (.call service) core answer last := by
  intro other final
  simp only [Script.call, plays_ask, plays_done, answers, exists_const]

theorem publish (place : QueueEnd) (event : Event) :
    PlaysOnly (.publish place event) core (core.publish place event).1
      (core.publish place event).2 := call fun _ => rfl

theorem startTimer (index : UInt8) (ticks : UInt16) :
    PlaysOnly (.startTimer index ticks) core (core.startTimer index ticks).1
      (core.startTimer index ticks).2 := call fun _ => rfl

theorem isCurrent (event : Event) :
    PlaysOnly (.isCurrent event) core (core.timers.isCurrent event) core := call fun _ => rfl

theorem ticksIn (time : UInt32) :
    PlaysOnly (.ticksIn time) core (core.config.ticksIn time) core := call fun _ => rfl

theorem trace (event : Event) : PlaysOnly (.trace event) core () core := call fun _ => rfl

theorem note (notice : Notice) : PlaysOnly (.note notice) core () core := call fun _ => rfl

end PlaysOnly

end Core

section Scripts

variable {World : Type} [Clock World] [Journal World]

theorem play_plays (script : Script α) (reactor : Reactor queueDepth traceDepth timerCount)
    (world : World) :
    Core.Plays script reactor.core (reactor.play script world).1.1
      (reactor.play script world).1.2.core := by
  induction script generalizing reactor world with
  | done result => exact .done
  | ask service next inductionHypothesis =>
    obtain ⟨now, acts⟩ := core_perform service reactor world
    have answer := congrArg Prod.fst acts
    have after := congrArg Prod.snd acts
    refine .ask now ?_
    rw [← answer, ← after]
    exact inductionHypothesis _ (reactor.perform service world).1.2
      (reactor.perform service world).2

/-- A reactor plays a script with one course in that way. -/
theorem play_only {script : Script α} (reactor : Reactor queueDepth traceDepth timerCount)
    {result : α} {last : Core queueDepth timerCount}
    (only : Core.PlaysOnly script reactor.core result last) (world : World) :
    (reactor.play script world).1.1 = result ∧ (reactor.play script world).1.2.core = last :=
  (only _ _).mp (play_plays script reactor world)

end Scripts

/-! ### Events -/

section Machines

variable {Body : Type}

/-- Whether a machine may be given an event, with the timers as they are. -/
def Core.admits (event : Event) (agent : Agent Body) (core : Core depth count) : Bool :=
  if event.id = Event.timerId then core.timers.isCurrent event
  else event.id ≠ Event.selfId || event.p8 = agent.context.id

theorem Core.PlaysOnly.admits {event : Event} {agent : Agent Body} {core : Core depth count} :
    PlaysOnly (agent.admits event) core (core.admits event agent) core := by
  unfold Agent.admits Core.admits
  split
  · refine (isCurrent event).bind ?_
    cases core.timers.isCurrent event with
    | true => exact done
    | false => exact (note _).bind done
  · simpa using done

variable [Machine Body]

namespace Core.PlaysOnly

variable {event : Event} {agent after : Agent Body} {core last : Core depth count}

/-- A machine that handles an event stays in its state. -/
theorem deliver_stay (handles : PlaysOnly (Machine.handle event agent) core (.stay, after) last) :
    PlaysOnly (agent.deliver event) core after last := handles.bind done

/-- A machine that handles an event moves to another state. -/
theorem deliver_moveTo {state : UInt8} {middle : Agent Body} {between : Core depth count}
    (handles : PlaysOnly (Machine.handle event agent) core (.moveTo state, middle) between)
    (moves : PlaysOnly (middle.moveTo state) between after last) :
    PlaysOnly (agent.deliver event) core after last := handles.bind moves

theorem notify {transition : Transition}
    (handles : PlaysOnly (Machine.handle event agent) core (transition, after) last) :
    PlaysOnly (agent.notify event) core after last := handles.bind done

/-- A machine that moves is told that it leaves and then that it enters. What it answers to either
does not count. -/
theorem moveTo {state : UInt8} {left : Agent Body} {between : Core depth count}
    {leaves enters : Transition}
    (exits : PlaysOnly (Machine.handle .exit agent) core (leaves, left) between)
    (entered : PlaysOnly
      (Machine.handle .entry { left with context := { left.context with state } }) between
        (enters, after) last) :
    PlaysOnly (agent.moveTo state) core after last :=
  bind (notify exits) (bind (trace _) (bind (note _) (notify entered)))

/-- A machine that may be given an event is given it. -/
theorem dispatch (admitted : core.admits event agent = true)
    (delivers : PlaysOnly (agent.deliver event) core after last) :
    PlaysOnly (agent.dispatch event) core (true, after) last := by
  refine admits.bind ?_
  rw [admitted, if_pos rfl]
  exact delivers.bind done

/-- A machine that may not be given an event is left alone. -/
theorem dispatch_of_not_admits (refused : core.admits event agent = false) :
    PlaysOnly (agent.dispatch event) core (false, agent) core := by
  refine admits.bind ?_
  rw [refused, if_neg Bool.false_ne_true]
  exact done

end Core.PlaysOnly

/-- The ways to offer an event to machines, with the machines and the core after it. -/
inductive Core.Offers (event : Event) :
    List (Agent Body) → Core depth count → List (Agent Body) → Core depth count → Prop where
  | nil {core : Core depth count} : Offers event [] core [] core
  | cons {agent after : Agent Body} {rest later : List (Agent Body)} {given : Bool}
      {core between last : Core depth count}
      (plays : Core.Plays (agent.dispatch event) core (given, after) between)
      (offers : Offers event rest between later last) :
      Offers event (agent :: rest) core (after :: later) last

theorem Core.offers_nil {event : Event} {later : List (Agent Body)} {core last : Core depth count} :
    Offers event [] core later last ↔ later = [] ∧ last = core := by
  constructor
  · rintro ⟨⟩
    exact ⟨rfl, rfl⟩
  · rintro ⟨rfl, rfl⟩
    exact .nil

/-- How an event is offered when the first machine takes it in one way only. -/
theorem Core.PlaysOnly.offers_cons {event : Event} {agent after : Agent Body}
    {rest later : List (Agent Body)} {given : Bool} {core between last : Core depth count}
    (only : PlaysOnly (agent.dispatch event) core (given, after) between) :
    Offers event (agent :: rest) core later last ↔
      ∃ others, later = after :: others ∧ Offers event rest between others last := by
  constructor
  · rintro (_ | ⟨plays, offers⟩)
    obtain ⟨same, rfl⟩ := (only _ _).mp plays
    obtain ⟨-, rfl⟩ := Prod.mk.inj same
    exact ⟨_, rfl, offers⟩
  · rintro ⟨others, rfl, offers⟩
    exact .cons ((only _ _).mpr ⟨rfl, rfl⟩) offers

/-- How an event is offered to a single machine that takes it in one way only. -/
theorem Core.PlaysOnly.offers_single {event : Event} {agent after : Agent Body}
    {later : List (Agent Body)} {given : Bool} {core between last : Core depth count}
    (only : PlaysOnly (agent.dispatch event) core (given, after) between)
    (offers : Offers event [agent] core later last) : later = [after] ∧ last = between := by
  obtain ⟨others, rfl, rest⟩ := only.offers_cons.mp offers
  obtain ⟨rfl, rfl⟩ := offers_nil.mp rest
  exact ⟨rfl, rfl⟩

variable {World : Type} [Clock World] [Journal World]

theorem offer_offers (event : Event) (agents : List (Agent Body))
    (reactor : Reactor queueDepth traceDepth timerCount) (world : World) :
    Core.Offers event agents reactor.core (reactor.offer event agents world).1.1
      (reactor.offer event agents world).1.2.core := by
  induction agents generalizing reactor world with
  | nil => exact .nil
  | cons agent rest inductionHypothesis =>
    exact .cons (play_plays (agent.dispatch event) reactor world)
      (inductionHypothesis (reactor.play (agent.dispatch event) world).1.2
        (reactor.play (agent.dispatch event) world).2)

/-! ### Handing out events -/

/-- Nothing is handed out when nothing waits. -/
theorem runPending_of_nil (budget : Nat) (agents : List (Agent Body))
    {reactor : Reactor queueDepth traceDepth timerCount} (empty : reactor.core.waiting = [])
    (world : World) : reactor.runPending budget agents world = ((0, agents, reactor), world) := by
  cases budget with
  | zero => rfl
  | succ budget =>
    rw [runPending, (next?_eq_none_iff reactor).mpr empty]
    rfl

/-- How an event is handed out: it is taken from the queue and offered to every machine. What comes
after does not depend on how many events are still to be handed out. -/
theorem runPending_of_cons (agents : List (Agent Body))
    {reactor : Reactor queueDepth traceDepth timerCount} {event : Event} {waiting : List Event}
    (next : reactor.core.waiting = event :: waiting) (world : World) :
    ∃ (later : List (Agent Body)) (after : Reactor queueDepth traceDepth timerCount)
        (onward : World),
      Core.Offers event agents { reactor.core with waiting } later after.core ∧
        ∀ budget, reactor.runPending (budget + 1) agents world =
          Prod.map (Prod.map (· + 1) id) id (after.runPending budget later onward) := by
  cases taken : reactor.next? with
  | none =>
    rw [(next?_eq_none_iff reactor).mp taken] at next
    cases next
  | some pair =>
    obtain ⟨first, rest⟩ := pair
    obtain ⟨split, left⟩ := core_of_next? taken
    obtain ⟨rfl, rfl⟩ := List.cons.inj (next.symm.trans split)
    have offered := offer_offers event agents rest world
    rw [left] at offered
    refine ⟨_, _, (rest.offer event agents world).2, offered, fun budget => ?_⟩
    rw [runPending, taken]
    rfl

/-- What every way to offer the next event keeps is kept when events are handed out, until none
waits or as many were taken as the caller was ready for. -/
theorem runPending_induction
    {motive : Nat → List (Agent Body) → Core queueDepth timerCount → Prop}
    (offers : ∀ {left : Nat} {agents later : List (Agent Body)}
      {core last : Core queueDepth timerCount} {event : Event} {waiting : List Event},
        core.waiting = event :: waiting →
        Core.Offers event agents { core with waiting } later last →
        motive (left + 1) agents core → motive left later last)
    {budget : Nat} {agents : List (Agent Body)}
    {reactor : Reactor queueDepth traceDepth timerCount} (start : motive budget agents reactor.core)
    (world : World) :
    ∃ left, motive left (reactor.runPending budget agents world).1.2.1
        (reactor.runPending budget agents world).1.2.2.core ∧
      (left = 0 ∨ (reactor.runPending budget agents world).1.2.2.core.waiting = []) := by
  induction budget generalizing agents reactor world with
  | zero => exact ⟨0, start, .inl rfl⟩
  | succ budget inductionHypothesis =>
    cases next : reactor.core.waiting with
    | nil =>
      rw [runPending_of_nil _ _ next]
      exact ⟨budget + 1, start, .inr next⟩
    | cons event waiting =>
      obtain ⟨later, after, onward, offered, same⟩ := runPending_of_cons agents next world
      rw [same]
      exact inductionHypothesis (offers next offered start) onward

end Machines

end BusNode.Reactor
