/-
This file defines how a rule is put on a list of things that happen one after another. A state is
carried along the list, and the rule says which things may happen in which state.

That a list obeys a rule is shown piece by piece, since a list obeys it exactly if its first part
does and its second part does from where the first one ends. What it says is read off at any place
in the list.

A rule of a second kind says what has to come after a thing that happened. It is shown piece by
piece as well, as long as nothing that comes later can break it.
-/

namespace BusNode

section Guarded

variable {State Item : Type} {next : State → Item → State} {allowed : State → Item → Prop}

/-- Every item of a list is allowed in the state that the items before it lead to. -/
def Guarded (next : State → Item → State) (allowed : State → Item → Prop) :
    State → List Item → Prop
  | _, [] => True
  | state, item :: rest => allowed state item ∧ Guarded next allowed (next state item) rest

instance [∀ state item, Decidable (allowed state item)] :
    ∀ (state : State) (items : List Item), Decidable (Guarded next allowed state items)
  | _, [] => .isTrue trivial
  | state, item :: rest =>
    have : Decidable (Guarded next allowed (next state item) rest) :=
      instDecidableGuarded (next state item) rest
    inferInstanceAs (Decidable (_ ∧ _))

@[simp] theorem guarded_nil (state : State) : Guarded next allowed state [] ↔ True := Iff.rfl

@[simp] theorem guarded_cons (state : State) (item : Item) (rest : List Item) :
    Guarded next allowed state (item :: rest) ↔
      allowed state item ∧ Guarded next allowed (next state item) rest := Iff.rfl

@[simp] theorem guarded_append (state : State) (first rest : List Item) :
    Guarded next allowed state (first ++ rest) ↔
      Guarded next allowed state first ∧ Guarded next allowed (first.foldl next state) rest := by
  induction first generalizing state with
  | nil => simp
  | cons item first inductionHypothesis =>
    simp only [List.cons_append, guarded_cons, List.foldl_cons, inductionHypothesis, and_assoc]

/-- What happens at a place in the list is allowed in the state that what came before leads to. -/
theorem Guarded.allowed_at {state : State} {items before after : List Item} {item : Item}
    (guarded : Guarded next allowed state items) (place : items = before ++ item :: after) :
    allowed (before.foldl next state) item := by
  rw [place, guarded_append] at guarded
  exact guarded.2.1

/-- Items that leave the state alone lead nowhere. -/
theorem foldl_of_still {state : State} {items : List Item}
    (still : ∀ item ∈ items, next state item = state) : items.foldl next state = state := by
  induction items with
  | nil => rfl
  | cons item rest inductionHypothesis =>
    rw [List.foldl_cons, still item List.mem_cons_self]
    exact inductionHypothesis fun other member => still other (List.mem_cons_of_mem _ member)

theorem guarded_of_still {state : State} {items : List Item}
    (still : ∀ item ∈ items, next state item = state) (fine : ∀ item ∈ items, allowed state item) :
    Guarded next allowed state items := by
  induction items with
  | nil => trivial
  | cons item rest inductionHypothesis =>
    rw [guarded_cons, still item List.mem_cons_self]
    exact ⟨fine item List.mem_cons_self,
      inductionHypothesis (fun other member => still other (List.mem_cons_of_mem _ member))
        fun other member => fine other (List.mem_cons_of_mem _ member)⟩

/-- What is allowed in every state is allowed wherever it happens. -/
theorem guarded_of_always {state : State} {items : List Item}
    (fine : ∀ item ∈ items, ∀ state, allowed state item) : Guarded next allowed state items := by
  induction items generalizing state with
  | nil => trivial
  | cons item rest inductionHypothesis =>
    exact ⟨fine item List.mem_cons_self state,
      inductionHypothesis fun other member => fine other (List.mem_cons_of_mem _ member)⟩

end Guarded

/-! ### What has to follow -/

section Followed

variable {State Item : Type} {next : State → Item → State}
  {owes : State → Item → List Item → Prop}

/-- After every item of a list comes what the item calls for in the state that the items before it
lead to. -/
def Followed (next : State → Item → State) (owes : State → Item → List Item → Prop) :
    State → List Item → Prop
  | _, [] => True
  | state, item :: rest => owes state item rest ∧ Followed next owes (next state item) rest

namespace Followed

/-- Where more items do not take back what has come, one list may follow another. -/
theorem append (grows : ∀ {state item rest} (more : List Item), owes state item rest →
      owes state item (rest ++ more)) {state : State} {first rest : List Item}
    (early : Followed next owes state first)
    (late : Followed next owes (first.foldl next state) rest) :
    Followed next owes state (first ++ rest) := by
  induction first generalizing state with
  | nil => exact late
  | cons item first inductionHypothesis =>
    exact ⟨grows rest early.1, inductionHypothesis early.2 late⟩

/-- Items that call for nothing may be followed by anything. -/
theorem of_always {state : State} {items : List Item}
    (fine : ∀ item ∈ items, ∀ state rest, owes state item rest) :
    Followed next owes state items := by
  induction items generalizing state with
  | nil => trivial
  | cons item rest inductionHypothesis =>
    exact ⟨fine item List.mem_cons_self state rest,
      inductionHypothesis fun other member => fine other (List.mem_cons_of_mem _ member)⟩

/-- What an item calls for comes after it, wherever it is in the list. -/
theorem owes_at {state : State} {items before after : List Item} {item : Item}
    (followed : Followed next owes state items) (place : items = before ++ item :: after) :
    owes (before.foldl next state) item after := by
  subst place
  induction before generalizing state with
  | nil => exact followed.1
  | cons first rest inductionHypothesis => exact inductionHypothesis followed.2

end Followed

end Followed

end BusNode
