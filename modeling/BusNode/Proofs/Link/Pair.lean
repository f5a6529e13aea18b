/-
This file puts a master and a slave together. Each has a link and a world of its own, and they take
their turns in any order. In between the two worlds change in any way, and together: that is how
bytes that left over one line come to the other. To each of the two a joint run is a run of its own.
-/
import BusNode.Proofs.Link.Lateness

namespace BusNode.Link

/-! ### Joint runs -/

/-- A master and a slave, each with a link and a world of its own. -/
structure Pair (MasterWorld SlaveWorld : Type) where
  master : Session MasterWorld
  slave : Session SlaveWorld

/-- What happens next in a joint run. -/
inductive Act (MasterWorld SlaveWorld : Type) where
  | master (call : Call)
  | slave (call : Call)
  /-- The worlds change on their own, or by the hands of their applications. -/
  | meanwhile (change : MasterWorld × SlaveWorld → MasterWorld × SlaveWorld)

/-- An act in which nothing is called but a step. -/
def Act.Serves {MasterWorld SlaveWorld : Type} : Act MasterWorld SlaveWorld → Prop
  | .master call | .slave call => call = .service
  | .meanwhile _ => True

namespace Pair

variable {MasterWorld SlaveWorld : Type} [Clock MasterWorld] [Line MasterWorld]
  [Journal MasterWorld] [Listener MasterWorld] [Clock SlaveWorld] [Line SlaveWorld]
  [Journal SlaveWorld] [Listener SlaveWorld]

def act (pair : Pair MasterWorld SlaveWorld) :
    Act MasterWorld SlaveWorld → Pair MasterWorld SlaveWorld
  | .master call => { pair with master := pair.master.move (.call call) }
  | .slave call => { pair with slave := pair.slave.move (.call call) }
  | .meanwhile change =>
    let worlds := change (pair.master.world, pair.slave.world)
    { master := { pair.master with world := worlds.1 }
      slave := { pair.slave with world := worlds.2 } }

def run (pair : Pair MasterWorld SlaveWorld) (acts : List (Act MasterWorld SlaveWorld)) :
    Pair MasterWorld SlaveWorld :=
  acts.foldl act pair

/-- Both sides of a joint run in which only steps are taken are runs in which only steps are
taken. -/
theorem run_sides (pair : Pair MasterWorld SlaveWorld) {acts : List (Act MasterWorld SlaveWorld)}
    (serves : ∀ act ∈ acts, act.Serves) :
    (∃ moves, (pair.run acts).master = pair.master.run moves ∧ ∀ move ∈ moves, move.Serves) ∧
      ∃ moves, (pair.run acts).slave = pair.slave.run moves ∧ ∀ move ∈ moves, move.Serves := by
  induction acts generalizing pair with
  | nil =>
    exact ⟨⟨[], rfl, fun _ member => (List.not_mem_nil member).elim⟩,
      ⟨[], rfl, fun _ member => (List.not_mem_nil member).elim⟩⟩
  | cons act rest inductionHypothesis =>
    obtain ⟨now, later⟩ := List.forall_mem_cons.mp serves
    obtain ⟨⟨moves, master, served⟩, ⟨other, slave, servedOther⟩⟩ :=
      inductionHypothesis (pair.act act) later
    match act with
    | .master call =>
      exact ⟨⟨.call call :: moves, master, List.forall_mem_cons.mpr ⟨now, served⟩⟩,
        ⟨other, slave, servedOther⟩⟩
    | .slave call =>
      exact ⟨⟨moves, master, served⟩,
        ⟨.call call :: other, slave, List.forall_mem_cons.mpr ⟨now, servedOther⟩⟩⟩
    | .meanwhile change =>
      -- What the worlds become depends on both, but it is known to each side when it comes to it.
      let worlds := change (pair.master.world, pair.slave.world)
      exact ⟨⟨.meanwhile (fun _ => worlds.1) :: moves, master,
          List.forall_mem_cons.mpr ⟨trivial, served⟩⟩,
        ⟨.meanwhile (fun _ => worlds.2) :: other, slave,
          List.forall_mem_cons.mpr ⟨trivial, servedOther⟩⟩⟩

/-- In a joint run of steps each side takes a row of steps. -/
theorem run_rounds (pair : Pair MasterWorld SlaveWorld)
    {acts : List (Act MasterWorld SlaveWorld)} (serves : ∀ act ∈ acts, act.Serves) :
    (∃ effects, (pair.run acts).master.history = pair.master.history ++ effects ∧
        Rounds pair.master.link effects (pair.run acts).master.link) ∧
      ∃ effects, (pair.run acts).slave.history = pair.slave.history ++ effects ∧
        Rounds pair.slave.link effects (pair.run acts).slave.link := by
  obtain ⟨⟨moves, master, served⟩, ⟨other, slave, servedOther⟩⟩ := pair.run_sides serves
  rw [master, slave]
  exact ⟨pair.master.run_rounds served, pair.slave.run_rounds servedOther⟩

end Pair

/-! ### What a session has added -/

namespace Session

variable {World : Type}

/-- The effects that a session has added since it was in an earlier state. -/
def since (earlier later : Session World) : List Effect :=
  later.history.drop earlier.history.length

theorem since_eq {earlier later : Session World} {effects : List Effect}
    (grown : later.history = earlier.history ++ effects) : earlier.since later = effects := by
  rw [since, grown, List.drop_left]

/-- How the latest call was answered. -/
def answer? (session : Session World) : Option Answer := session.turns.getLast?.map Turn.answer

/-- A session that came about by a run from a new link. -/
def Reached [Clock World] [Line World] [Journal World] [Listener World]
    (session : Session World) : Prop :=
  ∃ config world moves, session = (start config world).run moves

variable [Clock World] [Line World] [Journal World] [Listener World]

/-- A link that was reached cuts what it reads by its own settings. -/
theorem Reached.cuts {session : Session World} (reached : session.Reached) :
    ∃ limit segments shown, Cuts limit session.link segments shown := by
  obtain ⟨config, world, moves, rfl⟩ := reached
  exact ⟨_, _, _, (Framed.run config world moves).2⟩

/-- What a call adds, and how it went. -/
theorem move_grows (session : Session World) (call : Call) :
    ∃ answer effects, (session.move (.call call)).history = session.history ++ effects ∧
      (session.move (.call call)).answer? = some answer ∧
        Performed session.link call answer effects (session.move (.call call)).link ∧
          Leads session.world effects (session.move (.call call)).world := by
  obtain ⟨answer, effects, next, world, moved, performed, leads, -⟩ := session.move_call call
  rw [moved]
  refine ⟨answer, effects, ?_, ?_, performed, leads⟩
  · rw [history, history, history_append, history_cons, history_nil, List.append_nil]
  · rw [answer?, List.getLast?_concat]
    rfl

end Session

/-- What is kept holds of the effects that a run adds, if it holds of none where the run begins. -/
theorem Kept.run_since {World : Type} [Clock World] [Line World] [Journal World] [Listener World]
    {holds : Link → List Effect → Prop} (kept : Kept holds) (session : Session World)
    (initial : holds session.link []) (moves : List (Move World)) :
    holds (session.run moves).link (session.since (session.run moves)) := by
  have grown : ∃ effects, (session.run moves).history = session.history ++ effects ∧
      holds (session.run moves).link effects := by
    refine Session.run_induction (motive := fun later => ∃ effects,
      later.history = session.history ++ effects ∧ holds later.link effects)
      ⟨[], (List.append_nil _).symm, initial⟩ (fun _ _ held => held) ?_ moves
    rintro later call answer effects next world ⟨past, grown, held⟩ performed
    refine ⟨past ++ effects, ?_, kept.performed performed held⟩
    rw [Session.history, history_append, history_cons, history_nil, List.append_nil,
      ← List.append_assoc, ← grown]
    rfl
  obtain ⟨effects, grown, held⟩ := grown
  rwa [Session.since_eq grown]

end BusNode.Link
