/-
This file proves that a stale timeout never reaches a machine, and that a live one reaches each
machine at most once. It holds in every run in which nobody but the timers publishes timeouts:
whatever else is published at either end of the queue, whichever timers are started again or stopped
while their timeouts wait, and whichever machines take part in a drain.

A timeout is told from a stale one by its cookie. So a machine can be misled only when all cookies
have been drawn between the start of a timer and the delivery of its timeout.
-/
import BusNode.Node
import BusNode.Proofs.Reactor.Balance
import BusNode.Proofs.Reactor.Ensemble
import BusNode.Sim.Bench
import BusNode.Sim.Wire
import BusNode.Supervisor

namespace BusNode.Reactor

/-- The books of a history, from a reactor in which nothing has happened. -/
def Ledger.of (history : List Happening) : Ledger := history.foldl Ledger.next {}

/-- The timeouts in a history reach machines while they are live, and each reaches a machine once.
-/
structure Timely (history : List Happening) : Prop where
  live : ∀ {before after : List Happening} {machine : Nat} {event : Event},
    history = before ++ .given machine event :: after → event.id = Event.timerId →
      (Ledger.of before).Live event
  once : (Ledger.of history).deliveries.Nodup

namespace Ensemble

section Runs

variable {Body World : Type} {queueDepth traceDepth : Depth} {timerCount : Nat}

/-- Machines on a reactor in which nothing has happened. -/
def idle (config : Config) (agents : Nat → Agent Body) (world : World) :
    Ensemble Body World queueDepth traceDepth timerCount :=
  { agents, reactor := .idle config, world }

variable [Machine Body] [Clock World] [Journal World]

/-- In every run machines are given timeouts while they are live and each of them once, and what
waits in the books is what waits in the queue. -/
theorem timely_unless_forged {config : Config} {agents : Nat → Agent Body} {world : World}
    {ensemble : Ensemble Body World queueDepth traceDepth timerCount}
    (start : ensemble = idle config agents world) (acts : List (Act World))
    (honest : ∀ happening ∈ ensemble.history acts, happening.forged = false) :
    Timely (ensemble.history acts) ∧
      (Ledger.of (ensemble.history acts)).waiting.map Prod.fst =
        (ensemble.run acts).reactor.queue.toList := by
  have blank : ensemble.reactor.core = { waiting := [], timers := .idle, config } := by
    rw [start]
    exact congrArg (Core.mk · .idle config) EventQueue.toList_empty
  let desk : Desk queueDepth timerCount := { core := { waiting := [], timers := .idle, config } }
  have same : desk.core = ensemble.reactor.core := blank.symm
  obtain ⟨last, course, ended⟩ := ensemble.course acts same
  obtain ⟨guarded, balanced⟩ := (Ledger.Balanced.initial config).course course honest
  refine ⟨⟨fun split timeout => guarded.allowed_at split timeout, balanced.once⟩, ?_⟩
  exact balanced.waiting.trans (congrArg Core.waiting ended)

end Runs

/-- Supervisors on a node of the usual size. They all watch over the first timer. -/
def watch : Ensemble Supervisor (Sim.Bench Sim.Wire) Node.queueDepth Node.traceDepth Node.timerCount :=
  idle {} (fun _ => { body := {} }) { line := {} }

/-- The second timer runs out once, and is started again while its timeout waits. The first one is
started again by two supervisors on a request from the master. Then both run out. -/
def restarts : List (Act (Sim.Bench Sim.Wire)) :=
  [{ members := [7], move := .launch 0 1 }, { members := [7], move := .drain 8 },
    { move := .startTimer 1 1 }, { move := .tick }, { move := .startTimer 1 3 },
    { move := .publish .front Supervisor.masterComms }, { members := [7, 2], move := .drain 8 }] ++
  List.replicate 40 { move := .tick } ++ [{ members := [2, 7], move := .drain 8 }]

theorem timely_restarts :
    (∀ happening ∈ watch.history restarts, happening.forged = false) ∧
      Timely (watch.history restarts) ∧
      (Ledger.of (watch.history restarts)).deliveries = [(2, 2), (7, 2), (2, 4), (7, 4)] := by
  have honest : ∀ happening ∈ watch.history restarts, happening.forged = false := by
    decide +kernel
  exact ⟨honest, (timely_unless_forged rfl restarts honest).1, by decide +kernel⟩

end Ensemble

end BusNode.Reactor
