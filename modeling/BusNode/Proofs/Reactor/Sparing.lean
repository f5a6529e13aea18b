/-
This file says what leaves a timer alone. A service does so unless it starts or stops that timer,
and a script does if it asks for no other services, whatever the answers are. What happens on a
reactor leaves it alone if the timer is not started, does not count and does not run out.

A history that leaves a timer alone may fill the queue and empty it. But the last start of the timer
stays the last one, no timeout of it is queued, and it keeps its ticks.
-/
import BusNode.Proofs.Reactor.Course
import BusNode.Proofs.Reactor.Ledger

namespace BusNode

/-! ### Scripts -/

/-- Whether a service starts and stops no timers but those of one kind. -/
def Service.Within (kind : UInt8 → Prop) : Service → Prop
  | .startTimer index _ | .stopTimer index => kind index
  | .publish .. | .trace _ | .ticksLeft _ | .isCurrent _ | .ticksIn _ | .now | .note _ => True

namespace Script

variable {α β : Type} {asks : Service → Prop} {ends : α → Prop}

/-- A script asks only for services of one kind, and ends in a result of one kind, whatever the
answers are. -/
def Keeps (asks : Service → Prop) (ends : α → Prop) : Script α → Prop
  | .done result => ends result
  | .ask service next => asks service ∧ ∀ answer, (next answer).Keeps asks ends

namespace Keeps

theorem bind {script : Script α} {next : α → Script β} {ends' : β → Prop}
    (first : script.Keeps asks ends) (rest : ∀ result, ends result → (next result).Keeps asks ends') :
    (script >>= next).Keeps asks ends' := by
  induction script with
  | done result => exact rest result first
  | ask service later inductionHypothesis =>
    exact ⟨first.1, fun answer => inductionHypothesis answer (first.2 answer)⟩

theorem call {service : Service} (asked : asks service) :
    (Script.call service).Keeps asks fun _ => True := ⟨asked, fun _ => trivial⟩

end Keeps

end Script

namespace Reactor

variable {depth queueDepth traceDepth : Depth} {count timerCount : Nat} {timer : UInt8}

/-! ### What happens -/

namespace Happening

/-- Whether a timer is neither started nor stopped, does not count and does not run out. -/
def Spares (timer : UInt8) : Happening → Prop
  | started index _ _ | stopped index => index ≠ timer
  | rang timeout _ => timeout.p8 ≠ timer
  | ticked => False
  | published .. | taken _ | given .. => True

/-- Whether an event is taken from the queue. -/
def takes : Happening → Bool
  | taken _ => true
  | _ => false

end Happening

namespace Core

theorem spares_rings {emissions : List Emission}
    (spares : ∀ event, .publish event ∈ emissions → event.p8 ≠ timer) (core : Core depth count) :
    ∀ happening ∈ core.rings emissions, happening.Spares timer ∧ happening.takes = false := by
  induction emissions generalizing core with
  | nil => exact List.forall_mem_nil _
  | cons emission rest inductionHypothesis =>
    have later := inductionHypothesis fun event member =>
      spares event (List.mem_cons_of_mem _ member)
    cases emission with
    | publish event =>
      exact List.forall_mem_cons.mpr ⟨⟨spares event List.mem_cons_self, rfl⟩, later _⟩
    | trace _ | note _ => exact later core

/-- What happens with a service that leaves a timer alone leaves it alone. -/
theorem spares_happenings {service : Service} (spares : service.Within (· ≠ timer))
    (core : Core depth count) :
    ∀ happening ∈ core.happenings service, happening.Spares timer ∧ happening.takes = false := by
  cases service with
  | publish place event => exact List.forall_mem_singleton.mpr ⟨trivial, rfl⟩
  | startTimer index ticks =>
    rw [happenings]
    cases start : core.timers.start? index ticks with
    | none => exact List.forall_mem_nil _
    | some started =>
      obtain ⟨cookie, emissions, timers⟩ := started
      refine List.forall_mem_cons.mpr ⟨⟨spares, rfl⟩, spares_rings (fun event said => ?_) _⟩
      rw [TimerBank.timeout_of_start start said]
      exact spares
  | stopTimer index =>
    refine List.forall_mem_cons.mpr ⟨⟨spares, rfl⟩, spares_rings (fun event said => ?_) _⟩
    exact absurd said (TimerBank.not_mem_stop index core.timers event)
  | trace _ | ticksLeft _ | isCurrent _ | ticksIn _ | now | note _ =>
    exact List.forall_mem_nil _

theorem config_perform (now : UInt32) (service : Service) (core : Core depth count) :
    (core.perform now service).2.config = core.config := by
  cases service with
  | publish place event => exact config_publish place event core
  | startTimer index ticks =>
    show (core.startTimer index ticks).2.config = core.config
    unfold startTimer
    cases core.timers.start? index ticks with
    | none => rfl
    | some started => exact config_emitAll _ _
  | stopTimer index => exact config_emitAll _ _
  | trace _ | ticksLeft _ | isCurrent _ | ticksIn _ | now | note _ => rfl

/-- A timer keeps its ticks and its cookie when a service leaves it alone. -/
theorem timer?_perform {service : Service} {core : Core depth count}
    (spares : ∀ happening ∈ core.happenings service, happening.Spares timer) (now : UInt32) :
    (core.perform now service).2.timers.timer? timer = core.timers.timer? timer := by
  cases service with
  | publish place event => exact congrArg (·.timer? timer) (timers_publish place event core)
  | startTimer index ticks =>
    show (core.startTimer index ticks).2.timers.timer? timer = core.timers.timer? timer
    rw [happenings] at spares
    unfold startTimer
    cases start : core.timers.start? index ticks with
    | none => rfl
    | some started =>
      rw [start] at spares
      have other : index ≠ timer := spares _ List.mem_cons_self
      rw [timers_emitAll]
      exact TimerBank.timer?_start_other other.symm start
  | stopTimer index =>
    have other : index ≠ timer := spares _ List.mem_cons_self
    show (core.stopTimer index).timers.timer? timer = core.timers.timer? timer
    rw [stopTimer, timers_emitAll]
    exact TimerBank.timer?_stop_other other.symm
  | trace _ | ticksLeft _ | isCurrent _ | ticksIn _ | now | note _ => rfl

end Core

namespace Course

variable {desk last : Desk depth count} {past : List Happening}

theorem config (course : Course desk past last) : last.core.config = desk.core.config := by
  induction course with
  | rest => rfl
  | step _ step inductionHypothesis =>
    rw [← inductionHypothesis]
    cases step with
    | perform now service => exact Core.config_perform now service _
    | tick => exact Core.config_emitAll _ _
    | take | give => rfl

theorem timer?_of_spares (course : Course desk past last)
    (spares : ∀ happening ∈ past, happening.Spares timer) :
    last.core.timers.timer? timer = desk.core.timers.timer? timer := by
  induction course with
  | rest => rfl
  | step _ step inductionHypothesis =>
    obtain ⟨before, now⟩ := List.forall_mem_append.mp spares
    rw [← inductionHypothesis before]
    cases step with
    | perform time service => exact Core.timer?_perform now time
    | tick => exact (now _ List.mem_cons_self).elim
    | take | give => rfl

end Course

/-! ### The books -/

namespace Ledger

/-- An entry that is not the timeout of a timer, unless somebody else has published it. -/
def Foreign (timer : UInt8) (entry : Entry) : Prop := entry.1.p8 = timer → entry.2 = none

/-- An entry is the timeout of the last start of a timer, which was not stopped since. -/
def Current (timer : UInt8) (ledger : Ledger) (entry : Entry) : Prop :=
  entry.1.p8 = timer ∧ ∃ start, entry.2 = some start ∧ ledger.latest timer = some start

theorem not_current_of_foreign {ledger : Ledger} {entry : Entry} (foreign : Foreign timer entry) :
    ¬ ledger.Current timer entry := by
  rintro ⟨own, start, tagged, -⟩
  cases tagged.symm.trans (foreign own)

theorem latest_next {happening : Happening} (spares : happening.Spares timer) (ledger : Ledger) :
    (ledger.next happening).latest timer = ledger.latest timer := by
  cases happening with
  | started index ticks cookie => exact Function.update_of_ne spares.symm _ _
  | stopped index => exact Function.update_of_ne spares.symm _ _
  | ticked => exact spares.elim
  | taken event => rfl
  | published place event queued =>
    rw [next]
    split <;> rfl
  | rang timeout queued =>
    rw [next]
    split <;> rfl
  | given machine event =>
    rw [next]
    split <;> rfl

/-- What has joined the entries that wait is foreign to a timer, and the last start of that timer is
the same. -/
structure Grown (timer : UInt8) (before after : Ledger) : Prop where
  latest : after.latest timer = before.latest timer
  taken : after.taken = before.taken
  waiting : ∃ front back, after.waiting = front ++ before.waiting ++ back ∧
    (∀ entry ∈ front, Foreign timer entry) ∧ ∀ entry ∈ back, Foreign timer entry

namespace Grown

variable {before middle after : Ledger}

theorem refl (ledger : Ledger) : Grown timer ledger ledger :=
  ⟨rfl, rfl, [], [], (List.append_nil _).symm, by simp, by simp⟩

theorem trans (first : Grown timer before middle) (rest : Grown timer middle after) :
    Grown timer before after := by
  obtain ⟨front, back, grown, early, late⟩ := first.waiting
  obtain ⟨front', back', grown', early', late'⟩ := rest.waiting
  refine ⟨rest.latest.trans first.latest, rest.taken.trans first.taken, front' ++ front,
    back ++ back', ?_, List.forall_mem_append.mpr ⟨early', early⟩,
    List.forall_mem_append.mpr ⟨late, late'⟩⟩
  rw [grown', grown]
  simp only [List.append_assoc]

theorem back {entry : Entry} (foreign : Foreign timer entry) (ledger : Ledger) :
    Grown timer ledger { ledger with waiting := ledger.waiting ++ [entry] } :=
  ⟨rfl, rfl, [], [entry], rfl, by simp, List.forall_mem_singleton.mpr foreign⟩

theorem next {happening : Happening} (spares : happening.Spares timer)
    (stays : happening.takes = false) (ledger : Ledger) :
    Grown timer ledger (ledger.next happening) := by
  cases happening with
  | started index ticks cookie =>
    exact ⟨latest_next spares ledger, rfl, [], [], (List.append_nil _).symm, by simp, by simp⟩
  | stopped index =>
    exact ⟨latest_next spares ledger, rfl, [], [], (List.append_nil _).symm, by simp, by simp⟩
  | ticked => exact spares.elim
  | taken event => cases stays
  | published place event queued =>
    rw [Ledger.next]
    split
    · cases place with
      | back => exact back (fun _ => rfl) ledger
      | front =>
        exact ⟨rfl, rfl, [(event, none)], [], (List.append_nil _).symm,
          List.forall_mem_singleton.mpr fun _ => rfl, by simp⟩
    · exact refl ledger
  | rang timeout queued =>
    rw [Ledger.next]
    split
    · exact back (fun own => (spares own).elim) ledger
    · exact refl ledger
  | given machine event =>
    rw [Ledger.next]
    split
    · exact ⟨rfl, rfl, [], [], (List.append_nil _).symm, by simp, by simp⟩
    · exact refl ledger

end Grown

theorem grown_of_spares {history : List Happening}
    (spares : ∀ happening ∈ history, happening.Spares timer ∧ happening.takes = false)
    (ledger : Ledger) : Grown timer ledger (history.foldl next ledger) := by
  induction history generalizing ledger with
  | nil => exact .refl ledger
  | cons happening rest inductionHypothesis =>
    obtain ⟨now, later⟩ := List.forall_mem_cons.mp spares
    exact (Grown.next now.1 now.2 ledger).trans (inductionHypothesis later (ledger.next happening))

/-- When events are taken as well, what waits then has waited before or is foreign. -/
theorem waiting_of_spares {history : List Happening}
    (spares : ∀ happening ∈ history, happening.Spares timer) (ledger : Ledger) :
    (history.foldl next ledger).latest timer = ledger.latest timer ∧
      ∀ entry ∈ (history.foldl next ledger).waiting,
        entry ∈ ledger.waiting ∨ Foreign timer entry := by
  induction history generalizing ledger with
  | nil => exact ⟨rfl, fun entry member => .inl member⟩
  | cons happening rest inductionHypothesis =>
    obtain ⟨now, later⟩ := List.forall_mem_cons.mp spares
    obtain ⟨latest, waiting⟩ := inductionHypothesis later (ledger.next happening)
    refine ⟨latest.trans (latest_next now ledger), fun entry member => ?_⟩
    rcases waiting entry member with before | foreign
    · cases takes : happening.takes with
      | false =>
        obtain ⟨front, back, grown, early, late⟩ := (Grown.next now takes ledger).waiting
        rw [grown, List.mem_append, List.mem_append] at before
        rcases before with (ahead | waits) | behind
        · exact .inr (early entry ahead)
        · exact .inl waits
        · exact .inr (late entry behind)
      | true =>
        obtain ⟨event, rfl⟩ : ∃ event, happening = .taken event := by
          cases happening <;> first | exact ⟨_, rfl⟩ | cases takes
        exact .inl (List.mem_of_mem_tail before)
    · exact .inr foreign

/-- Timeouts that run out are queued behind all that waits. -/
theorem behind_of_rings (emissions : List Emission) (core : Core depth count) (ledger : Ledger) :
    ((core.rings emissions).foldl next ledger).latest = ledger.latest ∧
      ∃ back, ((core.rings emissions).foldl next ledger).waiting = ledger.waiting ++ back := by
  induction emissions generalizing core ledger with
  | nil => exact ⟨rfl, [], (List.append_nil _).symm⟩
  | cons emission rest inductionHypothesis =>
    cases emission with
    | trace _ | note _ => exact inductionHypothesis core ledger
    | publish event =>
      obtain ⟨latest, back, grown⟩ := inductionHypothesis (core.publish .back event).2
        (ledger.next (.rang event (core.publish .back event).1))
      have step : (ledger.next (.rang event (core.publish .back event).1)).latest = ledger.latest ∧
          ∃ first, (ledger.next (.rang event (core.publish .back event).1)).waiting =
            ledger.waiting ++ first := by
        rw [next]
        split
        · exact ⟨rfl, _, rfl⟩
        · exact ⟨rfl, [], (List.append_nil _).symm⟩
      obtain ⟨same, first, joined⟩ := step
      refine ⟨latest.trans same, first ++ back, ?_⟩
      rw [← List.append_assoc, ← joined]
      exact grown

end Ledger

/-! ### Machines -/

section Machines

variable {α β : Type} {World : Type} [Clock World] [Journal World]
  {asks : Service → Prop} {ends : α → Prop} {holds : Happening → Prop}

/-- A script that keeps to its word ends as it says on a reactor, and no service that it does not
ask for is performed. -/
theorem keeps_play {script : Script α} (keeps : script.Keeps asks ends)
    (brings : ∀ service, asks service → ∀ (core : Core queueDepth timerCount),
      ∀ happening ∈ core.happenings service, holds happening)
    (reactor : Reactor queueDepth traceDepth timerCount) (world : World) :
    ends (reactor.play script world).1.1 ∧
      ∀ happening ∈ playHistory script reactor world, holds happening := by
  induction script generalizing reactor world with
  | done result => exact ⟨keeps, List.forall_mem_nil _⟩
  | ask service next inductionHypothesis =>
    obtain ⟨ended, later⟩ := inductionHypothesis _ (keeps.2 _)
      (reactor.perform service world).1.2 (reactor.perform service world).2
    exact ⟨ended, List.forall_mem_append.mpr ⟨brings service keeps.1 reactor.core, later⟩⟩

variable {Body : Type} [Machine Body] {trait : Agent Body → β} {good : β → Prop}

/-- Whatever a machine with a good trait is offered, it keeps the trait and asks only for services
of one kind. -/
def Abides (trait : Agent Body → β) (good : β → Prop) (asks : Service → Prop) : Prop :=
  ∀ (event : Event) (agent : Agent Body), good (trait agent) →
    (agent.dispatch event).Keeps asks fun outcome => trait outcome.2 = trait agent

theorem Abides.offer (abides : Abides trait good asks)
    (brings : ∀ service, asks service → ∀ (core : Core queueDepth timerCount),
      ∀ happening ∈ core.happenings service, holds happening)
    {event : Event} (given : ∀ machine, holds (.given machine event))
    (machines : List (Nat × Agent Body)) (fine : ∀ machine ∈ machines, good (trait machine.2))
    (reactor : Reactor queueDepth traceDepth timerCount) (world : World) :
    (reactor.offer event (machines.map Prod.snd) world).1.1.map trait =
        (machines.map Prod.snd).map trait ∧
      ∀ happening ∈ offerHistory event machines reactor world, holds happening := by
  induction machines generalizing reactor world with
  | nil => exact ⟨rfl, List.forall_mem_nil _⟩
  | cons machine rest inductionHypothesis =>
    obtain ⟨name, agent⟩ := machine
    obtain ⟨first, others⟩ := List.forall_mem_cons.mp fine
    obtain ⟨kept, played⟩ := keeps_play (abides event agent first) brings reactor world
    obtain ⟨traits, later⟩ := inductionHypothesis others
      (reactor.play (agent.dispatch event) world).1.2
      (reactor.play (agent.dispatch event) world).2
    refine ⟨List.cons_eq_cons.mpr ⟨kept, traits⟩, ?_⟩
    refine List.forall_mem_append.mpr ⟨List.forall_mem_append.mpr ⟨?_, played⟩, later⟩
    split
    · exact List.forall_mem_singleton.mpr (given name)
    · exact List.forall_mem_nil _

theorem Abides.pending (abides : Abides trait good asks)
    (brings : ∀ service, asks service → ∀ (core : Core queueDepth timerCount),
      ∀ happening ∈ core.happenings service, holds happening)
    (given : ∀ machine event, holds (.given machine event)) (taken : ∀ event, holds (.taken event))
    {names : List Nat} (budget : Nat) {agents : List (Agent Body)}
    (each : names.length = agents.length) (fine : ∀ agent ∈ agents, good (trait agent))
    (reactor : Reactor queueDepth traceDepth timerCount) (world : World) :
    (reactor.runPending budget agents world).1.2.1.map trait = agents.map trait ∧
      ∀ happening ∈ pendingHistory names budget agents reactor world, holds happening := by
  induction budget generalizing agents reactor world with
  | zero => exact ⟨rfl, List.forall_mem_nil _⟩
  | succ budget inductionHypothesis =>
    rw [pendingHistory, runPending]
    cases next : reactor.next? with
    | none => exact ⟨rfl, List.forall_mem_nil _⟩
    | some pair =>
      obtain ⟨event, rest⟩ := pair
      have members : (names.zip agents).map Prod.snd = agents :=
        List.map_snd_zip (Nat.le_of_eq each.symm)
      obtain ⟨traits, offered⟩ := abides.offer brings (given · event) (names.zip agents)
        (fun machine member => fine _ (List.of_mem_zip member).2) rest world
      have same : (rest.offer event agents world).1.1.map trait = agents.map trait := by
        rw [members] at traits
        exact traits
      have later : ∀ agent ∈ (rest.offer event agents world).1.1, good (trait agent) := by
        intro agent member
        have among : trait agent ∈ agents.map trait := same ▸ List.mem_map_of_mem member
        obtain ⟨before, there, equal⟩ := List.mem_map.mp among
        exact equal ▸ fine before there
      obtain ⟨traits, onward⟩ := inductionHypothesis
        (each.trans (length_offer event agents rest world).symm) later
        (rest.offer event agents world).1.2 (rest.offer event agents world).2
      exact ⟨traits.trans same,
        List.forall_mem_append.mpr ⟨List.forall_mem_cons.mpr ⟨taken event, offered⟩, onward⟩⟩

end Machines

end Reactor

end BusNode
