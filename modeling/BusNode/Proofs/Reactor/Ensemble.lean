/-
This file lets an application have more machines than take part in a drain. Each time it says which
ones do, and in which order. The others stay as they are and take part later, or never. A machine is
a single thing, so none is named twice at a time.
-/
import BusNode.Proofs.Reactor.Course

namespace BusNode.Reactor

/-- Machines by their names, on a reactor, in a world. -/
structure Ensemble (Body World : Type) (queueDepth traceDepth : Depth) (timerCount : Nat) where
  agents : Nat → Agent Body
  reactor : Reactor queueDepth traceDepth timerCount
  world : World

/-- A move, and the machines that take part in it. -/
structure Act (World : Type) where
  members : List Nat := []
  distinct : members.Nodup := by decide
  move : Move World

namespace Ensemble

variable {Body World : Type} {queueDepth traceDepth : Depth} {timerCount : Nat}

/-- The machines that take part, in order. -/
def lineup (members : List Nat) (ensemble : Ensemble Body World queueDepth traceDepth timerCount) :
    Session Body World queueDepth traceDepth timerCount :=
  { agents := members.map ensemble.agents, reactor := ensemble.reactor, world := ensemble.world }

/-- Puts back the machines that took part. -/
def regroup (members : List Nat) (ensemble : Ensemble Body World queueDepth traceDepth timerCount)
    (session : Session Body World queueDepth traceDepth timerCount) :
    Ensemble Body World queueDepth traceDepth timerCount where
  agents := fun name =>
    ((members.zip session.agents).lookup name).getD (ensemble.agents name)
  reactor := session.reactor
  world := session.world

section Regroup

variable {members : List Nat} {ensemble : Ensemble Body World queueDepth traceDepth timerCount}
  {session : Session Body World queueDepth traceDepth timerCount} {name : Nat}

theorem regroup_cases (members : List Nat)
    (ensemble : Ensemble Body World queueDepth traceDepth timerCount)
    (session : Session Body World queueDepth traceDepth timerCount) (name : Nat) :
    (∃ (place : Nat) (agent : Agent Body), members[place]? = some name ∧
        session.agents[place]? = some agent ∧
        (ensemble.regroup members session).agents name = agent) ∨
      (∀ pair ∈ members.zip session.agents, name ≠ pair.1) ∧
        (ensemble.regroup members session).agents name = ensemble.agents name := by
  cases found : (members.zip session.agents).lookup name with
  | none =>
    refine .inr ⟨fun pair member => ?_, congrArg (Option.getD · (ensemble.agents name)) found⟩
    exact bne_iff_ne.mp (List.lookup_eq_none_iff.mp found pair member)
  | some agent =>
    obtain ⟨before, after, split, -⟩ := List.lookup_eq_some_iff.mp found
    have member : (name, agent) ∈ members.zip session.agents :=
      split ▸ List.mem_append_right _ List.mem_cons_self
    obtain ⟨place, there⟩ := List.mem_iff_getElem?.mp member
    obtain ⟨named, works⟩ := List.getElem?_zip_eq_some.mp there
    exact .inl ⟨place, agent, named, works, congrArg (Option.getD · (ensemble.agents name)) found⟩

/-- A machine that took part is put back under its name. -/
theorem regroup_of_getElem? (distinct : members.Nodup) {place : Nat} {agent : Agent Body}
    (named : members[place]? = some name) (there : session.agents[place]? = some agent) :
    (ensemble.regroup members session).agents name = agent := by
  rcases regroup_cases members ensemble session name with ⟨other, found, also, works, same⟩ | outside
  · have inside := (List.getElem?_eq_some_iff.mp named).1
    obtain rfl := (List.getElem?_inj inside distinct).mp (named.trans also.symm)
    exact same.trans (Option.some.inj (works.symm.trans there))
  · have member : (name, agent) ∈ members.zip session.agents :=
      List.mem_iff_getElem?.mpr ⟨place, List.getElem?_zip_eq_some.mpr ⟨named, there⟩⟩
    exact absurd rfl (outside.1 _ member)

theorem regroup_of_not_mem (absent : name ∉ members) :
    (ensemble.regroup members session).agents name = ensemble.agents name := by
  rcases regroup_cases members ensemble session name with ⟨place, -, named, -, -⟩ | outside
  · exact absurd (List.mem_of_getElem? named) absent
  · exact outside.2

/-- Machines keep a trait if those that took part have kept it. -/
theorem regroup_trait {Trait : Type} {trait : Agent Body → Trait}
    (kept : session.agents.map trait = (members.map ensemble.agents).map trait) (name : Nat) :
    trait ((ensemble.regroup members session).agents name) = trait (ensemble.agents name) := by
  rcases regroup_cases members ensemble session name with ⟨place, agent, named, there, same⟩ | outside
  · have now : (session.agents.map trait)[place]? = some (trait agent) := by
      rw [List.getElem?_map, there]
      rfl
    rw [kept, List.getElem?_map, List.getElem?_map, named] at now
    exact (congrArg trait same).trans (Option.some.inj now).symm
  · exact congrArg trait outside.2

end Regroup

variable [Machine Body] [Clock World] [Journal World]

def act (ensemble : Ensemble Body World queueDepth traceDepth timerCount) (act : Act World) :
    Ensemble Body World queueDepth traceDepth timerCount :=
  ensemble.regroup act.members ((ensemble.lineup act.members).move act.move)

def run (ensemble : Ensemble Body World queueDepth traceDepth timerCount) (acts : List (Act World)) :
    Ensemble Body World queueDepth traceDepth timerCount := acts.foldl act ensemble

/-- What happens in a run. -/
def history (ensemble : Ensemble Body World queueDepth traceDepth timerCount) :
    List (Act World) → List Happening
  | [] => []
  | act :: rest =>
    (ensemble.lineup act.members).happenings act.members act.move ++ (ensemble.act act).history rest

theorem history_append (ensemble : Ensemble Body World queueDepth traceDepth timerCount)
    (before after : List (Act World)) :
    ensemble.history (before ++ after) =
      ensemble.history before ++ (ensemble.run before).history after := by
  induction before generalizing ensemble with
  | nil => rfl
  | cons act rest inductionHypothesis =>
    rw [List.cons_append, history, history, inductionHypothesis, List.append_assoc]
    rfl

/-- What happens in a run is a course, whichever machines take part. -/
theorem course (ensemble : Ensemble Body World queueDepth traceDepth timerCount)
    (acts : List (Act World)) {desk : Desk queueDepth timerCount}
    (same : desk.core = ensemble.reactor.core) :
    ∃ last, Course desk (ensemble.history acts) last ∧ last.core = (ensemble.run acts).reactor.core := by
  induction acts generalizing ensemble desk with
  | nil => exact ⟨desk, .rest, same⟩
  | cons first rest inductionHypothesis =>
    have each : first.members.length = (ensemble.lineup first.members).agents.length :=
      (List.length_map _).symm
    obtain ⟨middle, moved, between⟩ :=
      Course.move first.distinct (ensemble.lineup first.members) each same first.move
    obtain ⟨last, onward, ended⟩ := inductionHypothesis (ensemble.act first) between
    exact ⟨last, moved.trans onward, ended⟩

end Ensemble

end BusNode.Reactor
