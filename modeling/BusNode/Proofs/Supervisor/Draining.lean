/-
This file proves that supervisors let a drain end. A supervisor queues nothing but the event that it
sends to itself, one for a sign of the master and none for anything else. It starts its timer for
some ticks at every rate, so no start publishes a timeout.

An event that is no sign of the master counts once, and a sign counts once more for every
supervisor. No answer is a sign. So the count of what waits drops with each event that is handed
out, and the count at the start bounds how many there are.
-/
import BusNode.Proofs.Reactor.Turnover
import BusNode.Proofs.Supervisor.Standing

namespace BusNode.Supervisor

open Reactor (Core Happening)

variable {depth queueDepth traceDepth : Depth} {count timerCount : Nat} {agent : Agent Supervisor}
  {event : Event} {core last : Core depth count}

/-! ### One supervisor -/

/-- What a supervisor has queued when it was offered an event: nothing, or, in answer to a sign of
the master, the event that it sends to itself. -/
def Posts (event : Event) (id : UInt8) (core last : Core depth count) : Prop :=
  last.waiting = core.waiting ∨
    isSign event = true ∧ last = (core.publish .front (.toSelf id)).2

/-- A supervisor that starts its timer queues nothing. -/
theorem waiting_startTimer (index : UInt8) (core : Core depth count) :
    (core.startTimer index (core.config.ticksIn patience)).2.waiting = core.waiting := by
  cases start : core.timers.start? index (core.config.ticksIn patience) with
  | none => simp only [Core.startTimer, start]
  | some started =>
    obtain ⟨cookie, emissions, timers⟩ := started
    rw [Core.startTimer_of_start? (ticksIn_patience_ne_zero core.config) start]

theorem deliver_posts (event : Event) (agent : Agent Supervisor) (core : Core depth count) :
    ∃ after last, Core.PlaysOnly (agent.deliver event) core after last ∧
      Posts event agent.context.id core last := by
  by_cases awake : agent.context.state = running
  · by_cases sign : isSign event = true
    · exact ⟨_, _, .deliver_stay (posts_running awake (isSign_iff.mp sign)), .inr ⟨sign, rfl⟩⟩
    by_cases self : event.id = Event.selfId
    · exact ⟨_, _, .deliver_stay (rearms_running awake self), .inl (waiting_startTimer _ _)⟩
    by_cases timeout : event.id = Event.timerId ∧ event.p8 = agent.body.timer
    · exact ⟨_, _, .deliver_moveTo (leaves_running awake timeout.1 timeout.2)
        (.moveTo (passes_over (concerns_exit _)) (shows_lost rfl rfl)), .inl rfl⟩
    · have quiet := not_or.mp (mt isSign_iff.mpr sign)
      have idle : concerns agent.body.timer event = false := by
        simpa [concerns, quiet, self] using not_and.mp timeout
      exact ⟨_, _, .deliver_stay (passes_over idle), .inl rfl⟩
  by_cases listening : agent.context.state = lost
  · by_cases sign : isSign event = true
    · rcases isSign_iff.mp sign with entry | comms
      · exact ⟨_, _, .deliver_stay (shows_lost listening entry), .inl rfl⟩
      · exact ⟨_, _, .deliver_moveTo (leaves_lost listening comms)
          (.moveTo (passes_over (concerns_exit _)) (posts_running rfl (.inl rfl))),
          .inr ⟨sign, rfl⟩⟩
    · exact ⟨_, _, .deliver_stay (stays_lost listening sign), .inl rfl⟩
  · refine ⟨agent, core, .deliver_stay ?_, .inl rfl⟩
    rw [handle_elsewhere awake listening]
    exact .done

theorem dispatch_posts (event : Event) (agent : Agent Supervisor) (core : Core depth count) :
    ∃ outcome last, Core.PlaysOnly (agent.dispatch event) core outcome last ∧
      Posts event agent.context.id core last := by
  cases admitted : core.admits event agent with
  | true =>
    obtain ⟨after, last, delivers, posts⟩ := deliver_posts event agent core
    exact ⟨_, _, .dispatch admitted delivers, posts⟩
  | false => exact ⟨_, _, .dispatch_of_not_admits admitted, .inl rfl⟩

/-! ### What waits -/

/-- How many events a number of supervisors can still be handed when nobody else publishes. -/
def load (supervisors : Nat) (waiting : List Event) : Nat :=
  waiting.length + supervisors * waiting.countP isSign

theorem load_cons (supervisors : Nat) (event : Event) (waiting : List Event) :
    load supervisors (event :: waiting) =
      load supervisors waiting + 1 + if isSign event then supervisors else 0 := by
  rw [load, load, List.countP_cons, List.length_cons, Nat.mul_add]
  split <;> omega

theorem load_le (supervisors : Nat) (waiting : List Event) :
    load supervisors waiting ≤ (supervisors + 1) * waiting.length := by
  have few : supervisors * waiting.countP isSign ≤ supervisors * waiting.length :=
    Nat.mul_le_mul_left _ List.countP_le_length
  rw [load, Nat.succ_mul]
  omega

/-- Whether an event is one that a machine sends to itself. -/
def isToSelf (event : Event) : Bool := event.id = Event.selfId

namespace Posts

variable {id : UInt8} (posts : Posts event id core last)

include posts

theorem load_le (supervisors : Nat) :
    load supervisors last.waiting ≤
      load supervisors core.waiting + if isSign event then 1 else 0 := by
  rcases posts with same | ⟨sign, rfl⟩
  · rw [same]
    exact Nat.le_add_right _ _
  · rw [if_pos sign]
    by_cases room : core.waiting.length < depth.size
    · rw [Core.publish_of_room rfl .front room]
      exact Nat.le_of_eq (load_cons supervisors (.toSelf id) core.waiting)
    · rw [Core.publish_of_full rfl .front (Nat.not_lt.mp room)]
      exact Nat.le_succ _

/-- Only events that machines send to themselves join the queue. -/
theorem countP_eq :
    last.waiting.countP (fun event => !isToSelf event) =
      core.waiting.countP fun event => !isToSelf event := by
  rcases posts with same | ⟨-, rfl⟩
  · rw [same]
  · rw [List.countP_eq_length_filter, List.countP_eq_length_filter, Core.filter_publish rfl]

end Posts

/-! ### All supervisors -/

/-- A sign of the master is answered at most once by every supervisor, and nothing else is. -/
theorem load_of_offers {agents later : List (Agent Supervisor)}
    (offers : Core.Offers event agents core later last) (supervisors : Nat) :
    later.length = agents.length ∧
      load supervisors last.waiting ≤
        load supervisors core.waiting + if isSign event then agents.length else 0 := by
  induction agents generalizing core later with
  | nil =>
    obtain ⟨rfl, rfl⟩ := Core.offers_nil.mp offers
    exact ⟨rfl, Nat.le_add_right _ _⟩
  | cons agent rest inductionHypothesis =>
    obtain ⟨⟨given, after⟩, between, only, posts⟩ := dispatch_posts event agent core
    obtain ⟨others, rfl, onward⟩ := only.offers_cons.mp offers
    obtain ⟨length, later⟩ := inductionHypothesis onward
    have first := posts.load_le supervisors
    refine ⟨congrArg (· + 1) length, ?_⟩
    rw [List.length_cons]
    cases sign : isSign event <;>
      simp only [sign, if_true, Bool.false_eq_true, if_false] at first later ⊢ <;> omega

/-- What waits counts for less when the next event was handed out. -/
theorem load_lt_of_offers {agents later : List (Agent Supervisor)} {waiting : List Event}
    (next : core.waiting = event :: waiting)
    (offers : Core.Offers event agents { core with waiting } later last) :
    load later.length last.waiting < load agents.length core.waiting := by
  obtain ⟨length, grown⟩ := load_of_offers offers agents.length
  rw [length, next, load_cons, Nat.add_right_comm]
  exact Nat.lt_succ_of_le grown

section Drains

variable {World : Type} [Clock World] [Journal World]

theorem joins_of_dispatch (event : Event) (agent : Agent Supervisor)
    (reactor : Reactor queueDepth traceDepth timerCount) (world : World) :
    (Reactor.playHistory (agent.dispatch event) reactor world).countP
      (Happening.joins fun event => !isToSelf event) = 0 := by
  obtain ⟨outcome, last, only, posts⟩ := dispatch_posts event agent reactor.core
  have grown := Reactor.countP_play (fun event => !isToSelf event) (agent.dispatch event) reactor
    world
  rw [(reactor.play_only only world).2, posts.countP_eq] at grown
  omega

theorem joins_of_offer (event : Event) (machines : List (Nat × Agent Supervisor))
    (reactor : Reactor queueDepth traceDepth timerCount) (world : World) :
    (Reactor.offerHistory event machines reactor world).countP
      (Happening.joins fun event => !isToSelf event) = 0 := by
  induction machines generalizing reactor world with
  | nil => rfl
  | cons machine rest inductionHypothesis =>
    obtain ⟨name, agent⟩ := machine
    have played := joins_of_dispatch event agent reactor world
    have later := inductionHypothesis (reactor.play (agent.dispatch event) world).1.2
      (reactor.play (agent.dispatch event) world).2
    have parts : Reactor.offerHistory event ((name, agent) :: rest) reactor world = _ ++ _ ++ _ :=
      rfl
    rw [parts, List.countP_append, List.countP_append, played, later]
    split <;> rfl

/-- Nothing joins the queue in a drain but what supervisors send to themselves. -/
theorem joins_of_drain (names : List Nat) (budget : Nat) (agents : List (Agent Supervisor))
    (reactor : Reactor queueDepth traceDepth timerCount) (world : World) :
    (Reactor.pendingHistory names budget agents reactor world).countP
      (Happening.joins fun event => !isToSelf event) = 0 := by
  induction budget generalizing agents reactor world with
  | zero => rfl
  | succ budget inductionHypothesis =>
    cases next : reactor.next? with
    | none => rw [Reactor.pendingHistory, next]; rfl
    | some pair =>
      obtain ⟨event, rest⟩ := pair
      rw [Reactor.pendingHistory_of_next? next, List.countP_append,
        List.countP_cons_of_neg (by simp [Happening.joins]), joins_of_offer, inductionHypothesis]

/-- Draining ends with supervisors. Any number of them, with any ids, timers and states, are handed
whatever waits, at any rate. Once the caller is ready for every event that waits at first, and once
more for each supervisor, it makes no difference how many more he is ready for. The queue is empty
then. As many events were taken as waited at first and as supervisors have sent to themselves. -/
theorem drain_ends (agents : List (Agent Supervisor))
    (reactor : Reactor queueDepth traceDepth timerCount) (world : World) :
    let limit := (agents.length + 1) * reactor.queue.length
    let drained := reactor.runPending limit agents world
    let history := Reactor.pendingHistory (List.range agents.length) limit agents reactor world
    (∀ more, reactor.runPending (limit + more) agents world = drained) ∧
      drained.1.2.2.queue.toList = [] ∧
      drained.1.1 = reactor.queue.length + history.countP (Happening.joins isToSelf) ∧
      drained.1.1 ≤ limit := by
  intro limit drained history
  have waits : reactor.core.waiting.length = reactor.queue.length :=
    EventQueue.length_toList reactor.queue
  have start : load agents.length reactor.core.waiting ≤ limit := by
    have bound := load_le agents.length reactor.core.waiting
    rwa [waits] at bound
  obtain ⟨left, within, ended⟩ := Reactor.runPending_induction
    (motive := fun left (later : List (Agent Supervisor)) core =>
      load later.length core.waiting ≤ left)
    (fun next offers within =>
      Nat.le_of_lt_succ (Nat.lt_of_lt_of_le (load_lt_of_offers next offers) within)) start world
  have emptied : drained.1.2.2.core.waiting = [] := by
    rcases ended with rfl | emptied
    · exact List.eq_nil_of_length_eq_zero (Nat.eq_zero_of_add_eq_zero (Nat.le_zero.mp within)).1
    · exact emptied
  have each : (List.range agents.length).length = agents.length := List.length_range
  have balance := Reactor.length_runPending limit each reactor world
  rw [Happening.countP_joins isToSelf, joins_of_drain, emptied, waits] at balance
  exact ⟨Reactor.runPending_of_emptied emptied, emptied, balance.symm,
    Reactor.runPending_le _ _ _ _⟩

end Drains

end BusNode.Supervisor
