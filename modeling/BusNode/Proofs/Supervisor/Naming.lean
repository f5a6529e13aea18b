/-
This file says which ids supervisors go by. A supervisor goes by zero until it is put into its first
state, and by an id of its own from then on. So two of them can go by one id only as long as one of
them is still to begin.

Events are handed out to all, and what one has sent to itself is taken by whoever goes by its id. A
supervisor that never shares its id when events are handed out has some ids to itself for the whole
schedule: only its own if it has begun when they are handed out for the first time, and otherwise
zero as well, since then all others have begun.
-/
import BusNode.Proofs.Supervisor.Company
import BusNode.Proofs.Supervisor.Patience

namespace BusNode.Supervisor

open Reactor (Move Session)

variable {queueDepth traceDepth : Depth} {timerCount : Nat} {World : Type} {place : Nat}

/-! ### Who goes by an id -/

/-- The id that the supervisor at a place goes by. -/
def idAt? (place : Nat) (agents : List (Agent Supervisor)) : Option UInt8 :=
  agents[place]?.map fun agent => agent.context.id

/-- The supervisor at a place shares its id with nobody. -/
def Unshared (place : Nat) (agents : List (Agent Supervisor)) : Prop :=
  ∀ seat < agents.length, seat ≠ place → idAt? seat agents ≠ idAt? place agents

instance (place : Nat) (agents : List (Agent Supervisor)) : Decidable (Unshared place agents) :=
  inferInstanceAs (Decidable (∀ seat < _, _ → _))

/-- Every supervisor goes by an id that it may go by at its place. -/
def GoBy (may : Nat → UInt8 → Prop) (agents : List (Agent Supervisor)) : Prop :=
  ∀ seat agent, agents[seat]? = some agent → may seat agent.context.id

/-- A move that leaves the timers to the supervisors, and their ids to a list. Nobody but the timers
publishes timeouts. -/
def Fits (ids : List UInt8) : Move World → Prop
  | .publish _ event => event.id ≠ Event.timerId
  | .startTimer .. | .stopTimer .. => False
  | .launch place id => ids[place]? = some id
  | .drain _ | .tick | .meanwhile _ => True

instance (ids : List UInt8) : (move : Move World) → Decidable (Fits ids move)
  | .publish _ event => inferInstanceAs (Decidable (event.id ≠ Event.timerId))
  | .startTimer .. | .stopTimer .. => .isFalse id
  | .launch .. => inferInstanceAs (Decidable (_ = _))
  | .drain _ | .tick | .meanwhile _ => .isTrue trivial

variable [Clock World] [Journal World]

/-- Something holds of the supervisors whenever events are handed out. -/
def AtDrains (holds : List (Agent Supervisor) → Prop) :
    Session Supervisor World queueDepth traceDepth timerCount → List (Move World) → Prop :=
  Guarded Session.move fun session move => move.drains = true → holds session.agents

instance (holds : List (Agent Supervisor) → Prop) [∀ agents, Decidable (holds agents)]
    (session : Session Supervisor World queueDepth traceDepth timerCount)
    (moves : List (Move World)) : Decidable (AtDrains holds session moves) :=
  inferInstanceAs (Decidable (Guarded _ _ session moves))

/-! ### Moves -/

theorem badge_pending (budget : Nat) (agents : List (Agent Supervisor))
    (reactor : Reactor queueDepth traceDepth timerCount) (world : World) :
    (reactor.runPending budget agents world).1.2.1.map badge = agents.map badge := by
  induction budget generalizing agents reactor world with
  | zero => rfl
  | succ budget inductionHypothesis =>
    cases next : reactor.next? with
    | none => rw [Reactor.runPending_of_nil _ _ ((Reactor.next?_eq_none_iff reactor).mp next)]
    | some pair =>
      rw [Reactor.runPending_of_next? next]
      exact (inductionHypothesis _ _ _).trans (badge_offer pair.1 agents pair.2 world)

variable {session : Session Supervisor World queueDepth traceDepth timerCount}
  {ids : List UInt8} {moves : List (Move World)} {may : Nat → UInt8 → Prop}

theorem length_move (session : Session Supervisor World queueDepth traceDepth timerCount)
    (move : Move World) : (session.move move).agents.length = session.agents.length := by
  simpa only [List.length_map] using congrArg List.length (timers_move session move)

/-- Only being put into the first state changes the id that a supervisor goes by. -/
theorem GoBy.move {move : Move World} (go : GoBy may session.agents) (fits : Fits ids move)
    (named : ∀ seat id, ids[seat]? = some id → may seat id) :
    GoBy may (session.move move).agents := by
  cases move with
  | publish | startTimer | stopTimer | tick | meanwhile => exact go
  | drain budget =>
    intro seat agent there
    obtain ⟨former, found, same⟩ := exists_of_badge
      (badge_pending budget session.agents session.reactor session.world) there
    rw [← (Prod.mk.inj same).1]
    exact go seat former found
  | launch place id =>
    cases here : session.agents[place]? with
    | none =>
      rw [Session.move, here]
      exact go
    | some started =>
      obtain ⟨agents, -⟩ := session.move_launch here (start_only id)
      rw [agents]
      intro seat agent there
      by_cases its : place = seat
      · subst its
        rw [List.getElem?_set_self (List.getElem?_eq_some_iff.mp here).1] at there
        cases there
        exact named place id fits
      · rw [List.getElem?_set_ne its] at there
        exact go seat agent there

/-! ### Ids of one supervisor alone -/

/-- The supervisor at a place has some ids to itself. -/
def Keeps (own : UInt8 → Prop) (place : Nat) (agents : List (Agent Supervisor)) : Prop :=
  GoBy (fun seat id => own id ↔ seat = place) agents

/-- If every supervisor goes by ids that it may go by, and whoever does so is told apart when events
are handed out, then it stays so. -/
theorem atDrains_keeps (may : Nat → UInt8 → Prop) {own : UInt8 → Prop}
    (go : GoBy may session.agents) (fits : ∀ move ∈ moves, Fits ids move)
    (named : ∀ seat id, ids[seat]? = some id → may seat id)
    (unshared : AtDrains (Unshared place) session moves)
    (apart : ∀ agents : List (Agent Supervisor), agents.length = session.agents.length →
      GoBy may agents → Unshared place agents → Keeps own place agents) :
    AtDrains (Keeps own place) session moves := by
  induction moves generalizing session with
  | nil => trivial
  | cons move rest inductionHypothesis =>
    obtain ⟨fitsNow, fitsLater⟩ := List.forall_mem_cons.mp fits
    refine ⟨fun drains => apart _ rfl go (unshared.1 drains), ?_⟩
    refine inductionHypothesis (go.move fitsNow named) fitsLater unshared.2 ?_
    rw [length_move]
    exact apart

/-- The ids that supervisors may go by while only the one at a place may be still to begin. -/
def LastToBegin (ids : List UInt8) (place : Nat) (name : UInt8) (seat : Nat) (id : UInt8) : Prop :=
  if seat = place then id = name ∨ id = 0 else ids[seat]? = some id ∧ id ≠ 0

section Watched

variable {name : UInt8} (distinct : ids.Nodup) (its : ids[place]? = some name)

include distinct its

theorem eq_place_of_getElem? {seat : Nat} (listed : ids[seat]? = some name) : seat = place :=
  (List.getElem?_inj (List.getElem?_eq_some_iff.mp listed).1 distinct).mp (listed.trans its.symm)

theorem eq_name_iff (seat : Nat) (id : UInt8) (listed : ids[seat]? = some id) :
    id = name ↔ seat = place := by
  constructor
  · rintro rfl
    exact eq_place_of_getElem? distinct its listed
  · rintro rfl
    exact Option.some.inj (listed.symm.trans its)

/-- A supervisor that goes by its own id has that id to itself whenever it shares it with nobody. -/
theorem keeps_of_begun (begun : idAt? place session.agents = some name)
    (fits : ∀ move ∈ moves, Fits ids move)
    (unshared : AtDrains (Unshared place) session moves) :
    AtDrains (Keeps (· = name) place) session moves := by
  obtain ⟨agent, there, named⟩ := Option.map_eq_some_iff.mp begun
  have inside := (List.getElem?_eq_some_iff.mp there).1
  refine atDrains_keeps (fun seat id => seat = place → id = name) ?_ fits
    (fun seat id listed => (eq_name_iff distinct its seat id listed).mpr) unshared ?_
  · rintro seat agent found rfl
    cases there.symm.trans found
    exact named
  · intro agents length go apart seat agent found
    refine ⟨fun same => ?_, go seat agent found⟩
    have watched : idAt? place agents = some name := by
      have there := List.getElem?_eq_getElem (length ▸ inside : place < agents.length)
      rw [idAt?, there]
      exact congrArg some (go place _ there rfl)
    by_contra other
    refine apart seat (List.getElem?_eq_some_iff.mp found).1 other ?_
    rw [watched, idAt?, found]
    exact congrArg some same

/-- Then zero is an id of that one alone. -/
theorem LastToBegin.tells {seat : Nat} {id : UInt8} (may : LastToBegin ids place name seat id) :
    id = name ∨ id = 0 ↔ seat = place := by
  unfold LastToBegin at may
  split at may
  · rename_i here
    exact iff_of_true may here
  · rename_i other
    refine iff_of_false ?_ other
    rintro (rfl | rfl)
    · exact other (eq_place_of_getElem? distinct its may.1)
    · exact may.2 rfl

/-- If the others have begun when a supervisor still goes by zero, it has zero to itself from then
on. -/
theorem keeps_of_unbegun (length : ids.length = session.agents.length)
    (go : GoBy (fun seat id => id = 0 ∨ ids[seat]? = some id) session.agents)
    (unbegun : idAt? place session.agents = some 0) (apart : Unshared place session.agents)
    (fits : ∀ move ∈ moves, Fits ids move)
    (unshared : AtDrains (Unshared place) session moves) :
    (∀ seat id, ids[seat]? = some id → (id = name ∨ id = 0 ↔ seat = place)) ∧
      AtDrains (Keeps (fun id => id = name ∨ id = 0) place) session moves := by
  have begun : ∀ seat agent, session.agents[seat]? = some agent → seat ≠ place →
      ids[seat]? = some agent.context.id ∧ agent.context.id ≠ 0 := by
    intro seat agent there other
    have nonzero : agent.context.id ≠ 0 := by
      intro zero
      refine apart seat (List.getElem?_eq_some_iff.mp there).1 other ?_
      rw [unbegun, idAt?, there]
      exact congrArg some zero
    exact ⟨(go seat agent there).resolve_left nonzero, nonzero⟩
  have named : ∀ seat id, ids[seat]? = some id → LastToBegin ids place name seat id := by
    intro seat id listed
    unfold LastToBegin
    split
    · rename_i here
      exact .inl ((eq_name_iff distinct its seat id listed).mpr here)
    · rename_i other
      have there := List.getElem?_eq_getElem
        (length ▸ (List.getElem?_eq_some_iff.mp listed).1 : seat < session.agents.length)
      obtain ⟨listed', nonzero⟩ := begun seat _ there other
      rw [Option.some.inj (listed.symm.trans listed')]
      exact ⟨listed', nonzero⟩
  refine ⟨fun seat id listed => (named seat id listed).tells distinct its, ?_⟩
  refine atDrains_keeps (LastToBegin ids place name) ?_ fits named unshared
    fun agents _ go _ seat agent there => (go seat agent there).tells distinct its
  intro seat agent there
  unfold LastToBegin
  split
  · rename_i here
    subst here
    rw [idAt?, there] at unbegun
    exact .inr (Option.some.inj unbegun)
  · rename_i other
    exact begun seat agent there other

/-- A supervisor that never shares its id when events are handed out has some ids to itself then,
and of those that the list gives only its own is among them. -/
theorem exists_keeps (length : ids.length = session.agents.length)
    (go : GoBy (fun seat id => id = 0 ∨ ids[seat]? = some id) session.agents)
    (fits : ∀ move ∈ moves, Fits ids move)
    (unshared : AtDrains (Unshared place) session moves) :
    ∃ own : UInt8 → Prop, (∀ seat id, ids[seat]? = some id → (own id ↔ seat = place)) ∧
      AtDrains (Keeps own place) session moves := by
  induction moves generalizing session with
  | nil => exact ⟨(· = name), eq_name_iff distinct its, trivial⟩
  | cons move rest inductionHypothesis =>
    cases drains : move.drains with
    | false =>
      obtain ⟨fitsNow, fitsLater⟩ := List.forall_mem_cons.mp fits
      obtain ⟨own, owns, later⟩ := inductionHypothesis (length.trans (length_move _ _).symm)
        (go.move fitsNow fun _ _ => .inr) fitsLater unshared.2
      exact ⟨own, owns, fun now => (Bool.noConfusion (drains.symm.trans now)), later⟩
    | true =>
      have there := List.getElem?_eq_getElem
        (length ▸ (List.getElem?_eq_some_iff.mp its).1 : place < session.agents.length)
      have goesBy : idAt? place session.agents = some _ := congrArg _ there
      obtain zero | listed := go place _ there
      · obtain ⟨owns, keeps⟩ := keeps_of_unbegun distinct its length go
          (goesBy.trans (congrArg some zero)) (unshared.1 drains) fits unshared
        exact ⟨_, owns, keeps⟩
      · exact ⟨(· = name), eq_name_iff distinct its, keeps_of_begun distinct its
          (goesBy.trans (listed.symm.trans its)) fits unshared⟩

end Watched

end BusNode.Supervisor
