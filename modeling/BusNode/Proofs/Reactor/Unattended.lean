/-
This file shows what becomes of the timers of a reactor on which no machine works. They do what the
application does with them. Whether the events that they publish find room in the queue makes no
difference, and neither does anything else that waits there.
-/
import BusNode.Proofs.Reactor.Session
import BusNode.Proofs.Timer.Usage

namespace BusNode.Reactor

/-- What a move of the application does with the timers. -/
def Move.timerAct? {World : Type} : Move World → Option TimerBank.Act
  | .startTimer index ticks => some (.start index ticks)
  | .stopTimer index => some (.stop index)
  | .tick => some .tick
  | .publish .. | .drain _ | .launch .. | .meanwhile _ => none

variable {depth queueDepth traceDepth : Depth} {count timerCount : Nat}

theorem Core.timers_startTimer (index : UInt8) (ticks : UInt16) (core : Core depth count) :
    (core.startTimer index ticks).2.timers = (core.timers.act (.start index ticks)).2 := by
  rw [startTimer, TimerBank.act]
  cases core.timers.start? index ticks with
  | none => rfl
  | some started => exact timers_emitAll _ _

variable {Body World : Type} [Machine Body] [Clock World] [Journal World]

theorem Session.drain_of_alone
    {session : Session Body World queueDepth traceDepth timerCount} (alone : session.agents = [])
    (budget : Nat) :
    (session.move (.drain budget)).agents = [] ∧
      (session.move (.drain budget)).core.timers = session.core.timers := by
  induction budget generalizing session with
  | zero => exact ⟨alone, rfl⟩
  | succ budget inductionHypothesis =>
    match next : session.core.waiting with
    | [] =>
      rw [session.move_drain_of_nil next]
      exact ⟨alone, rfl⟩
    | event :: waiting =>
      obtain ⟨later, offers, same⟩ := session.move_drain_of_cons next
      rw [alone, Core.offers_nil] at offers
      obtain ⟨left, timers⟩ := inductionHypothesis offers.1
      rw [same, timers, offers.2]
      exact ⟨left, rfl⟩

/-- Where no machine works, a move does with the timers what it says, whatever finds room in the
queue. -/
theorem Session.timers_move_of_alone
    {session : Session Body World queueDepth traceDepth timerCount} (alone : session.agents = [])
    (move : Move World) :
    (session.move move).agents = [] ∧
      (session.move move).core.timers = session.core.timers.run move.timerAct?.toList := by
  cases move with
  | publish place event =>
    refine ⟨alone, ?_⟩
    rw [session.core_publish, Core.timers_publish]
    rfl
  | startTimer index ticks =>
    refine ⟨alone, ?_⟩
    rw [session.core_startTimer, Core.timers_startTimer]
    rfl
  | stopTimer index =>
    refine ⟨alone, ?_⟩
    rw [session.core_stopTimer]
    exact Core.timers_emitAll _ _
  | tick =>
    refine ⟨alone, ?_⟩
    rw [session.core_tick]
    exact Core.timers_emitAll _ _
  | drain budget => exact session.drain_of_alone alone budget
  | launch place id =>
    have nobody : session.agents[place]? = none := by
      rw [alone]
      rfl
    rw [Session.move]
    simp only [nobody]
    exact ⟨alone, rfl⟩
  | meanwhile change => exact ⟨alone, rfl⟩

theorem Session.timers_run_of_alone
    {session : Session Body World queueDepth traceDepth timerCount} (alone : session.agents = [])
    (moves : List (Move World)) :
    (session.run moves).core.timers =
      session.core.timers.run (moves.filterMap Move.timerAct?) := by
  induction moves generalizing session with
  | nil => rfl
  | cons first rest inductionHypothesis =>
    obtain ⟨left, timers⟩ := session.timers_move_of_alone alone first
    rw [Session.run_cons, inductionHypothesis left, timers, ← TimerBank.run_append]
    cases act : first.timerAct? with
    | none =>
      rw [List.filterMap_cons_none act]
      rfl
    | some done =>
      rw [List.filterMap_cons_some act]
      rfl

end BusNode.Reactor
