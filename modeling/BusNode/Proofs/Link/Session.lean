/-
This file defines the runs of a link. A run is a list of moves: calls on the link by the
application, and anything at all that happens to the world between two calls. Every call leaves a
turn behind, which holds how it was answered, its effects on the world, and the link after it.

What elementary steps and raw sends keep of a link and the history of its effects is true after
every run.
-/
import BusNode.Proofs.Guarded
import BusNode.Proofs.Link.Call

namespace BusNode.Link

/-! ### Runs -/

/-- A call as it went. -/
structure Turn where
  call : Call
  answer : Answer
  effects : List Effect
  /-- The link after the call. -/
  link : Link

/-- The effects of turns, the earliest first. -/
def history (turns : List Turn) : List Effect := turns.flatMap Turn.effects

@[simp] theorem history_append (before after : List Turn) :
    history (before ++ after) = history before ++ history after :=
  List.flatMap_append

@[simp] theorem history_cons (turn : Turn) (rest : List Turn) :
    history (turn :: rest) = turn.effects ++ history rest :=
  List.flatMap_cons

@[simp] theorem history_nil : history [] = [] := rfl

/-- What happens next in a run. -/
inductive Move (World : Type) where
  | call (call : Call)
  /-- The world changes on its own, or by the hand of the application. -/
  | meanwhile (change : World → World)

/-- A link in its world, and the turns that were taken. -/
structure Session (World : Type) where
  link : Link
  world : World
  turns : List Turn := []

namespace Session

variable {World : Type}

/-- A new link in a world. -/
def start (config : Config) (world : World) : Session World := { link := { config }, world }

/-- Everything that was asked of the world, with what it answered. -/
def history (session : Session World) : List Effect := Link.history session.turns

variable [Clock World] [Line World] [Journal World] [Listener World]

def move (session : Session World) : Move World → Session World
  | .meanwhile change => { session with world := change session.world }
  | .call call =>
    let ((answer, link), recorded) :=
      call.perform session.link (⟨session.world, []⟩ : Recorded World)
    { link
      world := recorded.world
      turns := session.turns ++ [{ call, answer, effects := recorded.history, link }] }

def run (session : Session World) (moves : List (Move World)) : Session World :=
  moves.foldl move session

/-- A call adds a turn in one of the ways that `Performed` lists, and its effects lead to the world
after it. Without the recording it would have been answered in the same way, and left the same link
and the same world. -/
theorem move_call (session : Session World) (call : Call) :
    ∃ answer effects next world,
      session.move (.call call) =
          { link := next, world, turns := session.turns ++ [⟨call, answer, effects, next⟩] } ∧
        Performed session.link call answer effects next ∧ Leads session.world effects world ∧
          call.perform session.link session.world = ((answer, next), world) := by
  obtain ⟨effects, grown, same, leads, performed⟩ :=
    perform_traces call session.link (⟨session.world, []⟩ : Recorded World)
  rw [List.nil_append] at grown
  refine ⟨_, _, _, _, ?_, performed, leads, same⟩
  rw [← grown]
  rfl

/-- What is true of a new link, and kept by every change of the world and by every call, is true
after every run. -/
theorem run_induction {motive : Session World → Prop} {session : Session World}
    (start : motive session)
    (meanwhile : ∀ (session : Session World) (world : World),
      motive session → motive { session with world })
    (call : ∀ (session : Session World) (call : Call) (answer : Answer) (effects : List Effect)
      (next : Link) (world : World), motive session →
        Performed session.link call answer effects next →
        motive { link := next, world, turns := session.turns ++ [⟨call, answer, effects, next⟩] })
    (moves : List (Move World)) : motive (session.run moves) := by
  induction moves generalizing session with
  | nil => exact start
  | cons first rest inductionHypothesis =>
    refine inductionHypothesis ?_
    match first with
    | .meanwhile change => exact meanwhile session _ start
    | .call made =>
      obtain ⟨answer, effects, next, world, moved, performed, -⟩ := session.move_call made
      rw [moved]
      exact call session made answer effects next world start performed

end Session

/-! ### What a link keeps -/

/-- Something about a link and the history of its effects that elementary steps and raw sends
keep. -/
structure Kept (holds : Link → List Effect → Prop) : Prop where
  step {link next : Link} {history effects : List Effect} :
    holds link history → Step link effects next → holds next (history ++ effects)
  raw {link next : Link} {history effects : List Effect} {bytes : List UInt8}
      {result : Except Error Unit} :
    holds link history → Transmission bytes link result effects next →
      holds next (history ++ effects)

namespace Kept

variable {holds : Link → List Effect → Prop} {link next : Link} {past effects : List Effect}

theorem steps (kept : Kept holds) (steps : Steps link effects next) (held : holds link past) :
    holds next (past ++ effects) := by
  induction steps generalizing past with
  | done => rwa [List.append_nil]
  | step step _ inductionHypothesis =>
    rw [← List.append_assoc]
    exact inductionHypothesis (kept.step held step)

theorem performed {call : Call} {answer : Answer} (kept : Kept holds)
    (performed : Performed link call answer effects next) (held : holds link past) :
    holds next (past ++ effects) := by
  by_cases raw : ∃ bytes, call = .sendRaw bytes
  · obtain ⟨bytes, rfl⟩ := raw
    cases performed with
    | sendRaw transmission => exact kept.raw held transmission
    | named named _ => exact absurd named (by simp [Call.named?])
  · exact kept.steps (performed.steps fun bytes same => raw ⟨bytes, same⟩) held

/-- What is kept on its own is kept together. -/
theorem and {other : Link → List Effect → Prop} (kept : Kept holds) (keptOther : Kept other) :
    Kept fun link past => holds link past ∧ other link past where
  step held step := ⟨kept.step held.1 step, keptOther.step held.2 step⟩
  raw held transmission := ⟨kept.raw held.1 transmission, keptOther.raw held.2 transmission⟩

end Kept

section Runs

variable {World : Type} [Clock World] [Line World] [Journal World] [Listener World]

theorem foldl_effects (turns : List Turn) :
    turns.foldl (fun past turn => past ++ turn.effects) [] = history turns := by
  rw [history, List.flatMap_eq_foldl]

/-- What a link keeps holds after every run, and every turn was taken while it held. -/
theorem Kept.run {holds : Link → List Effect → Prop} (kept : Kept holds)
    (taken : List Effect → Turn → Prop) (config : Config) (initial : holds { config } [])
    (turn : ∀ link past turn, holds link past →
      Performed link turn.call turn.answer turn.effects turn.link → taken past turn)
    (world : World) (moves : List (Move World)) :
    holds ((Session.start config world).run moves).link
        ((Session.start config world).run moves).history ∧
      ∀ before turn after, ((Session.start config world).run moves).turns =
        before ++ turn :: after → taken (history before) turn := by
  -- The turns obey the rule `taken` along the history that they make, which an append extends.
  have obeyed : holds ((Session.start config world).run moves).link
        ((Session.start config world).run moves).history ∧
      Guarded (fun past (turn : Turn) => past ++ turn.effects) taken []
        ((Session.start config world).run moves).turns := by
    refine Session.run_induction (motive := fun session => holds session.link session.history ∧
      Guarded (fun past (turn : Turn) => past ++ turn.effects) taken [] session.turns) ?_
      (fun _ _ held => held) ?_ moves
    · exact ⟨initial, trivial⟩
    intro session call answer effects next world held performed
    refine ⟨?_, ?_⟩
    · rw [Session.history, history_append, history_cons, history_nil, List.append_nil]
      exact kept.performed performed held.1
    · rw [guarded_append, foldl_effects]
      exact ⟨held.2, turn session.link session.history _ held.1 performed, trivial⟩
  refine ⟨obeyed.1, fun before turn after place => ?_⟩
  rw [← foldl_effects]
  exact obeyed.2.allowed_at place

end Runs

end BusNode.Link
