/-
This file records what a computation does to its world. A recorded world is a world together with
the history of everything that was asked of it and what it answered: clock readings, calls on the
line, notes and reports.

Recording only watches. A computation that works in every world can be run in a recorded one and in
the world itself, and `Traces` says that both runs give the same answer and leave the same world,
and what the first adds to the history. It is closed under sequencing, so what a computation may add
is found by walking through it once.

A history does not say what the world was like at each effect. `Leads` does: it takes the world from
one effect to the next, so that what a world answers is known where it was asked.
-/
import BusNode.Clock
import BusNode.Journal
import BusNode.Line.Basic

namespace BusNode

/-! ### Recorded worlds -/

/-- One thing that was asked of a world, with what it answered. -/
inductive Effect where
  | micros (now : UInt32)
  | millis (now : UInt32)
  | drive (enabled : Bool) (answer : Except Error Unit)
  | write (bytes : List UInt8) (answer : Except Error Unit)
  | flush (answer : Except Error Unit)
  | read (answer : Except Error (Option UInt8))
  | note (notice : Notice)
  | report (report : Link.Report)

/-- Whether an effect neither begins a wait, nor gives a report, nor has to do with the bytes that
come in and their times. -/
def Effect.incidental : Effect → Bool
  | .note .waitArmed => false
  | .report _ => false
  | .read _ => false
  | .micros _ => false
  | _ => true

/-- The effect of noting something if there is reason to. -/
def Effect.noteIf (reason : Bool) (notice : Notice) : List Effect :=
  if reason then [.note notice] else []

@[simp] theorem Effect.forall_mem_noteIf {reason : Bool} {notice : Notice}
    {holds : Effect → Prop} :
    (∀ effect ∈ Effect.noteIf reason notice, holds effect) ↔
      (reason = true → holds (.note notice)) := by
  cases reason <;> simp [Effect.noteIf]

/-- A world, and everything that was asked of it, the earliest first. -/
structure Recorded (World : Type) where
  world : World
  history : List Effect := []

namespace Recorded

variable {World Answer : Type}

/-- Asks something of the world and writes down the answer. -/
def ask (action : StateM World Answer) (effect : Answer → Effect) :
    StateM (Recorded World) Answer := fun recorded =>
  let (answer, world) := action recorded.world
  (answer, { world, history := recorded.history ++ [effect answer] })

instance [Clock World] : Clock (Recorded World) where
  micros := ask Clock.micros .micros
  millis := ask Clock.millis .millis

instance [Line World] : Line (Recorded World) where
  drive enabled := ask (Line.drive enabled) (.drive enabled)
  write bytes := ask (Line.write bytes) (.write bytes)
  flush := ask Line.flush .flush
  read := ask Line.read .read

instance [Journal World] : Journal (Recorded World) where
  note notice := ask (Journal.note notice) fun _ => .note notice

instance [Listener World] : Listener (Recorded World) where
  report report := ask (Listener.report report) fun _ => .report report

end Recorded

/-! ### From effect to effect -/

section Worlds

variable {World : Type} [Clock World] [Line World] [Journal World] [Listener World]

/-- How a world answers what is asked of it, and what becomes of it. -/
inductive Answers (world : World) : Effect → World → Prop where
  | micros : Answers world (.micros ((Clock.micros : StateM World UInt32) world).1)
      ((Clock.micros : StateM World UInt32) world).2
  | millis : Answers world (.millis ((Clock.millis : StateM World UInt32) world).1)
      ((Clock.millis : StateM World UInt32) world).2
  | drive (enabled : Bool) :
      Answers world (.drive enabled (Line.drive enabled world).1) (Line.drive enabled world).2
  | write (bytes : List UInt8) :
      Answers world (.write bytes (Line.write bytes world).1) (Line.write bytes world).2
  | flush : Answers world (.flush ((Line.flush : StateM World (Except Error Unit)) world).1)
      ((Line.flush : StateM World (Except Error Unit)) world).2
  | read : Answers world (.read ((Line.read : StateM World (Except Error (Option UInt8))) world).1)
      ((Line.read : StateM World (Except Error (Option UInt8))) world).2
  | note (notice : Notice) : Answers world (.note notice) (Journal.note notice world).2
  | report (report : Link.Report) :
      Answers world (.report report) (Listener.report report world).2

/-- What a world becomes while it is asked one thing after the other. -/
inductive Leads : World → List Effect → World → Prop where
  | done {world : World} : Leads world [] world
  | step {world middle next : World} {effect : Effect} {later : List Effect}
      (answers : Answers world effect middle) (rest : Leads middle later next) :
      Leads world (effect :: later) next

namespace Leads

variable {world middle next : World} {effects later : List Effect} {effect : Effect}

theorem single (answers : Answers world effect next) : Leads world [effect] next :=
  .step answers .done

theorem trans (first : Leads world effects middle) (rest : Leads middle later next) :
    Leads world (effects ++ later) next := by
  induction first with
  | done => exact rest
  | step answers _ inductionHypothesis => exact .step answers (inductionHypothesis rest)

/-- There is a world after each effect. -/
theorem split (leads : Leads world (effects ++ later) next) :
    ∃ middle, Leads world effects middle ∧ Leads middle later next := by
  induction effects generalizing world with
  | nil => exact ⟨world, .done, leads⟩
  | cons effect rest inductionHypothesis =>
    cases leads with
    | step answers leads =>
      obtain ⟨middle, first, second⟩ := inductionHypothesis leads
      exact ⟨middle, .step answers first, second⟩

end Leads

end Worlds

/-! ### What a computation adds to a history -/

section Traces

/-- A computation in a recorded world does what the same computation does in the world itself, and
adds effects to the history that lead from world to world and stand in the given relation to its
answer. -/
def Traces (World : Type) [Clock World] [Line World] [Journal World] [Listener World]
    {Answer : Type} (recorded : StateM (Recorded World) Answer) (plain : StateM World Answer)
    (shows : Answer → List Effect → Prop) : Prop :=
  ∀ start : Recorded World, ∃ effects,
    (recorded start).2.history = start.history ++ effects ∧
      plain start.world = ((recorded start).1, (recorded start).2.world) ∧
        Leads start.world effects (recorded start).2.world ∧ shows (recorded start).1 effects

variable {World : Type} [Clock World] [Line World] [Journal World] [Listener World]
  {Answer Next : Type}

namespace Traces

theorem mono {recorded : StateM (Recorded World) Answer} {plain : StateM World Answer}
    {shows shows' : Answer → List Effect → Prop} (traces : Traces World recorded plain shows)
    (weaker : ∀ answer effects, shows answer effects → shows' answer effects) :
    Traces World recorded plain shows' := by
  intro start
  obtain ⟨effects, grown, same, leads, shown⟩ := traces start
  exact ⟨effects, grown, same, leads, weaker _ _ shown⟩

/-- A computation that only answers adds nothing. -/
theorem pure {answer : Answer} {shows : Answer → List Effect → Prop} (shown : shows answer []) :
    Traces World (Pure.pure answer) (Pure.pure answer) shows := by
  intro start
  exact ⟨[], (List.append_nil _).symm, rfl, .done, shown⟩

/-- Of two computations in a row, the second adds its effects behind those of the first. -/
theorem bind {recorded : StateM (Recorded World) Answer} {plain : StateM World Answer}
    {recordedRest : Answer → StateM (Recorded World) Next} {plainRest : Answer → StateM World Next}
    {shows : Answer → List Effect → Prop} {shows' : Next → List Effect → Prop}
    (first : Traces World recorded plain shows)
    (rest : ∀ answer effects, shows answer effects →
      Traces World (recordedRest answer) (plainRest answer)
        fun next later => shows' next (effects ++ later)) :
    Traces World (recorded >>= recordedRest) (plain >>= plainRest) shows' := by
  intro start
  obtain ⟨effects, grown, same, leads, shown⟩ := first start
  obtain ⟨later, grownLater, sameLater, leadsLater, shownLater⟩ :=
    rest (recorded start).1 effects shown (recorded start).2
  refine ⟨effects ++ later, ?_, ?_, leads.trans leadsLater, shownLater⟩
  · show (recordedRest (recorded start).1 (recorded start).2).2.history = _
    rw [grownLater, grown, List.append_assoc]
  · show plainRest (plain start.world).1 (plain start.world).2 = _
    rw [same]
    exact sameLater

/-- Asking one thing of the world adds one effect. -/
theorem ask {action : StateM World Answer} {effect : Answer → Effect}
    (answers : ∀ world, Answers world (effect (action world).1) (action world).2) :
    Traces World (Recorded.ask action effect) action fun answer effects =>
      effects = [effect answer] := by
  intro start
  exact ⟨_, rfl, rfl, .single (answers start.world), rfl⟩

/-! ### Single effects -/

theorem micros :
    Traces World Clock.micros Clock.micros fun now effects => effects = [.micros now] :=
  ask fun _ => .micros

theorem millis :
    Traces World Clock.millis Clock.millis fun now effects => effects = [.millis now] :=
  ask fun _ => .millis

theorem drive (enabled : Bool) :
    Traces World (Line.drive enabled) (Line.drive enabled) fun answer effects =>
      effects = [.drive enabled answer] :=
  ask fun _ => .drive enabled

theorem write (bytes : List UInt8) :
    Traces World (Line.write bytes) (Line.write bytes) fun answer effects =>
      effects = [.write bytes answer] :=
  ask fun _ => .write bytes

theorem flush :
    Traces World Line.flush Line.flush fun answer effects => effects = [.flush answer] :=
  ask fun _ => .flush

theorem read :
    Traces World Line.read Line.read fun answer effects => effects = [.read answer] :=
  ask fun _ => .read

theorem note (notice : Notice) :
    Traces World (Journal.note notice) (Journal.note notice) fun _ effects =>
      effects = [.note notice] :=
  ask fun _ => .note notice

theorem noteIf (reason : Bool) (notice : Notice) :
    Traces World (Journal.noteIf reason notice) (Journal.noteIf reason notice)
      fun _ effects => effects = Effect.noteIf reason notice := by
  cases reason with
  | true => exact note notice
  | false => exact pure rfl

theorem report (report : Link.Report) :
    Traces World (Listener.report report) (Listener.report report) fun _ effects =>
      effects = [.report report] :=
  ask fun _ => .report report

end Traces

end Traces

end BusNode
