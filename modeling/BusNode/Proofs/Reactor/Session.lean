/-
This file defines the runs of machines on a reactor. A run is a list of moves: what the application
asks of the reactor, the ticks, the drains of the queue, and anything at all that happens to the
world between two of them. Every move acts on the core of the reactor as a plain function does,
apart from those that let machines work.
-/
import BusNode.Proofs.Reactor.Played

namespace BusNode.Reactor

/-- What happens next in a run. -/
inductive Move (World : Type) where
  /-- The application queues an event. -/
  | publish (place : QueueEnd) (event : Event)
  | startTimer (index : UInt8) (ticks : UInt16)
  | stopTimer (index : UInt8)
  /-- The timers are served. -/
  | tick
  /-- Events are handed out, no more than the given number. -/
  | drain (budget : Nat)
  /-- The machine at a place is put into its first state, under an id. -/
  | launch (place : Nat) (id : UInt8)
  /-- The world changes on its own. -/
  | meanwhile (change : World → World)

/-- Machines on a reactor, in a world. -/
structure Session (Body World : Type) (queueDepth traceDepth : Depth) (timerCount : Nat) where
  agents : List (Agent Body)
  reactor : Reactor queueDepth traceDepth timerCount
  world : World

namespace Session

variable {Body World : Type} {queueDepth traceDepth : Depth} {timerCount : Nat}

/-- The core of the reactor. -/
def core (session : Session Body World queueDepth traceDepth timerCount) :
    Core queueDepth timerCount := session.reactor.core

theorem core_waiting (session : Session Body World queueDepth traceDepth timerCount) :
    session.core.waiting = session.reactor.queue.toList := rfl

variable [Machine Body] [Clock World] [Journal World]

def move (session : Session Body World queueDepth traceDepth timerCount) :
    Move World → Session Body World queueDepth traceDepth timerCount
  | .publish place event =>
    let ((_, reactor), world) := session.reactor.publish place event session.world
    { session with reactor, world }
  | .startTimer index ticks =>
    let ((_, reactor), world) := session.reactor.startTimer index ticks session.world
    { session with reactor, world }
  | .stopTimer index =>
    let (reactor, world) := session.reactor.stopTimer index session.world
    { session with reactor, world }
  | .tick =>
    let (reactor, world) := session.reactor.tick session.world
    { session with reactor, world }
  | .drain budget =>
    let ((_, agents, reactor), world) :=
      session.reactor.runPending budget session.agents session.world
    { agents, reactor, world }
  | .launch place id =>
    match session.agents[place]? with
    | none => session
    | some agent =>
      let ((agent, reactor), world) := session.reactor.play (agent.start id) session.world
      { agents := session.agents.set place agent, reactor, world }
  | .meanwhile change => { session with world := change session.world }

def run (session : Session Body World queueDepth traceDepth timerCount)
    (moves : List (Move World)) : Session Body World queueDepth traceDepth timerCount :=
  moves.foldl move session

theorem run_append (session : Session Body World queueDepth traceDepth timerCount)
    (before after : List (Move World)) :
    session.run (before ++ after) = (session.run before).run after :=
  List.foldl_append

theorem run_cons (session : Session Body World queueDepth traceDepth timerCount)
    (first : Move World) (rest : List (Move World)) :
    session.run (first :: rest) = (session.move first).run rest := rfl

/-! ### Moves without machines -/

variable (session : Session Body World queueDepth traceDepth timerCount)

theorem core_publish (place : QueueEnd) (event : Event) :
    (session.move (.publish place event)).core = (session.core.publish place event).2 :=
  congrArg Prod.snd (Reactor.core_publish place event session.reactor session.world)

theorem core_startTimer (index : UInt8) (ticks : UInt16) :
    (session.move (.startTimer index ticks)).core = (session.core.startTimer index ticks).2 :=
  congrArg Prod.snd (Reactor.core_startTimer index ticks session.reactor session.world)

theorem core_stopTimer (index : UInt8) :
    (session.move (.stopTimer index)).core = session.core.stopTimer index :=
  Reactor.core_stopTimer index session.reactor session.world

theorem core_tick : (session.move .tick).core = session.core.tick :=
  Reactor.core_tick session.reactor session.world

/-! ### Moves of machines -/

theorem move_launch {place : Nat} {id : UInt8} {agent after : Agent Body}
    {last : Core queueDepth timerCount} (there : session.agents[place]? = some agent)
    (only : Core.PlaysOnly (agent.start id) session.core after last) :
    (session.move (.launch place id)).agents = session.agents.set place after ∧
      (session.move (.launch place id)).core = last := by
  obtain ⟨same, core⟩ := session.reactor.play_only only session.world
  simp only [move, there]
  exact ⟨congrArg (session.agents.set place) same, core⟩

theorem move_drain_of_nil (empty : session.core.waiting = []) (budget : Nat) :
    session.move (.drain budget) = session := by
  rw [move, Reactor.runPending_of_nil _ _ empty]

/-- A drain offers the next event to every machine and goes on from there. -/
theorem move_drain_of_cons {event : Event} {waiting : List Event}
    (next : session.core.waiting = event :: waiting) :
    ∃ later : Session Body World queueDepth traceDepth timerCount,
      Core.Offers event session.agents { session.core with waiting } later.agents later.core ∧
        ∀ budget, session.move (.drain (budget + 1)) = later.move (.drain budget) := by
  obtain ⟨agents, reactor, world, offers, same⟩ :=
    Reactor.runPending_of_cons session.agents next session.world
  refine ⟨⟨agents, reactor, world⟩, offers, fun budget => ?_⟩
  rw [move, same]
  rfl

end Session

end BusNode.Reactor
