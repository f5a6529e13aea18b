/-
This file proves that the trace is a faithful record. Whatever is done with a reactor and its
machines, the trace holds the newest entries of all that ought to have been written since it was
last cleared, as far as the mask allowed them then. What it no longer holds was read or is counted.

Between two deeds the application may read the trace, clear it or edit its mask.
-/
import BusNode.Proofs.Reactor.Account

namespace BusNode.Reactor

variable {Body World : Type} {queueDepth traceDepth : Depth} {timerCount : Nat}
variable [Machine Body] [Clock World] [Journal World]

namespace Session

variable (session : Session Body World queueDepth traceDepth timerCount)

/-- What a move gives. A machine that is put into its first state gives what it asks for on entering
it. -/
def account : Move World → List TraceEntry
  | .publish place event => session.reactor.publishAccount session.world place event
  | .startTimer index ticks => session.reactor.startAccount session.world index ticks
  | .stopTimer index => session.reactor.stopAccount session.world index
  | .tick => session.reactor.tickAccount session.world
  | .drain budget => pendingAccount budget session.agents session.reactor session.world
  | .launch place id =>
    match session.agents[place]? with
    | none => []
    | some agent =>
      playAccount (Machine.handle .entry { agent with context := { state := 0, id } })
        session.reactor (Journal.note (.machineStarted id) session.world).2
  | .meanwhile _ => []

theorem trace_move (move : Move World) :
    (session.move move).reactor.trace =
      (session.account move).foldl TraceLog.put session.reactor.trace := by
  cases move with
  | publish place event => exact trace_publish _ _ _ _
  | startTimer index ticks => exact trace_startTimer _ _ _ _
  | stopTimer index => exact trace_stopTimer _ _ _
  | tick => exact trace_tick _ _
  | drain budget => exact trace_runPending _ _ _ _
  | meanwhile change => rfl
  | launch place id =>
    simp only [Session.move, account]
    cases session.agents[place]? with
    | none => rfl
    | some agent =>
      let entered : Agent Body := { agent with context := { state := 0, id } }
      refine (trace_play (agent.start id) session.reactor session.world).trans ?_
      exact congrArg (List.foldl TraceLog.put session.reactor.trace)
        (playAccount_notify .entry entered session.reactor _)

end Session

/-! ### Deeds -/

/-- What is done next with a reactor and its machines. -/
inductive Deed (World : Type) where
  | act (act : Act World)
  /-- The application takes an event from the queue. -/
  | take
  /-- The application offers an event to one machine. -/
  | dispatch (name : Nat) (event : Event)
  /-- The application writes an event to the trace only. -/
  | trace (event : Event)
  /-- The application takes an entry from the trace. -/
  | read
  | clear
  | editMask (edit : TraceMask → TraceMask)

namespace Ensemble

def step (ensemble : Ensemble Body World queueDepth traceDepth timerCount) :
    Deed World → Ensemble Body World queueDepth traceDepth timerCount
  | .act act => ensemble.act act
  | .take =>
    match ensemble.reactor.next? with
    | none => ensemble
    | some (_, reactor) => { ensemble with reactor }
  | .dispatch name event =>
    let (((_, agent), reactor), world) :=
      ensemble.reactor.play ((ensemble.agents name).dispatch event) ensemble.world
    { agents := Function.update ensemble.agents name agent, reactor, world }
  | .trace event =>
    let (reactor, world) := ensemble.reactor.traceEvent event ensemble.world
    { ensemble with reactor, world }
  | .read =>
    match ensemble.reactor.trace.read? with
    | none => ensemble
    | some (_, trace) => { ensemble with reactor := { ensemble.reactor with trace } }
  | .clear =>
    { ensemble with
      reactor := { ensemble.reactor with trace := ensemble.reactor.trace.clear } }
  | .editMask edit =>
    { ensemble with
      reactor := { ensemble.reactor with trace := ensemble.reactor.trace.editMask edit } }

/-- What a deed does to the tape: it writes what the deed gives, or it is one of those that are
about the trace itself. -/
def write (ensemble : Ensemble Body World queueDepth traceDepth timerCount) (tape : Tape) :
    Deed World → Tape
  | .act act => tape.write traceDepth.size ((ensemble.lineup act.members).account act.move)
  | .take => tape
  | .dispatch name event =>
    tape.write traceDepth.size
      (dispatchAccount event (ensemble.agents name) ensemble.reactor ensemble.world)
  | .trace event => tape.write traceDepth.size (traceAccount ensemble.world event)
  | .read => tape.skip
  | .clear => tape.clear
  | .editMask edit => tape.editMask edit

def live (ensemble : Ensemble Body World queueDepth traceDepth timerCount)
    (deeds : List (Deed World)) : Ensemble Body World queueDepth traceDepth timerCount :=
  deeds.foldl step ensemble

/-- The tape after deeds. -/
def tape (ensemble : Ensemble Body World queueDepth traceDepth timerCount) (tape : Tape) :
    List (Deed World) → Tape
  | [] => tape
  | deed :: rest => (ensemble.step deed).tape (ensemble.write tape deed) rest

section Faithful

variable {ensemble : Ensemble Body World queueDepth traceDepth timerCount} {tape : Tape}

theorem ends_step (ends : Tape.Ends ensemble.reactor.trace tape) (deed : Deed World) :
    Tape.Ends (ensemble.step deed).reactor.trace (ensemble.write tape deed) := by
  cases deed with
  | act act =>
    have moved := (ensemble.lineup act.members).trace_move act.move
    show Tape.Ends ((ensemble.lineup act.members).move act.move).reactor.trace _
    rw [moved]
    exact ends.write _
  | take =>
    unfold step
    cases next : ensemble.reactor.next? with
    | none => exact ends
    | some taken =>
      show Tape.Ends taken.2.trace tape
      rw [trace_next? next]
      exact ends
  | dispatch name event =>
    show Tape.Ends
      (ensemble.reactor.play ((ensemble.agents name).dispatch event) ensemble.world).1.2.trace _
    rw [trace_dispatch]
    exact ends.write _
  | trace event =>
    show Tape.Ends (ensemble.reactor.traceEvent event ensemble.world).1.trace _
    rw [trace_traceEvent]
    exact ends.write _
  | read =>
    unfold step
    cases taken : ensemble.reactor.trace.read? with
    | none => exact ends.skip_of_none taken
    | some pair => exact ends.skip_of_some taken
  | clear => exact ends.clear
  | editMask edit => exact ends.editMask edit

theorem ends_live (ends : Tape.Ends ensemble.reactor.trace tape) (deeds : List (Deed World)) :
    Tape.Ends (ensemble.live deeds).reactor.trace (ensemble.tape tape deeds) := by
  induction deeds generalizing ensemble tape with
  | nil => exact ends
  | cons deed rest inductionHypothesis => exact inductionHypothesis (ends_step ends deed)

end Faithful

end Ensemble

/-- After any deeds the trace holds the newest entries of what ought to have been written since it
was last cleared, each if the mask allowed it then. Those before them were read or were lost to
others when the trace was full, and the trace counts the latter, up to the wrap of its counter. -/
theorem trace_is_faithful (config : Config) (agents : Nat → Agent Body) (world : World)
    (deeds : List (Deed World)) :
    let start : Ensemble Body World queueDepth traceDepth timerCount :=
      { agents, reactor := .idle config, world }
    let log := (start.live deeds).reactor.trace
    let tape := start.tape {} deeds
    log.mask = tape.mask ∧
      log.overwritten = UInt32.ofNat tape.lost ∧
      log.toList = tape.kept.drop (tape.read + tape.lost) ∧
      tape.read + tape.lost + log.length = tape.kept.length := by
  intro start log tape
  have ends : Tape.Ends log tape := Ensemble.ends_live Tape.ends_empty deeds
  exact ⟨ends.mask, ends.overwritten, ends.held, ends.length_held⟩

end BusNode.Reactor
