/-
This file says why a supervisor cannot give up the master too early. While it takes the master to be
there, one of two things holds. Either it rests on its timer, which still has to count for at least
as long as the master may be silent, and no timeout of its last start waits before that. Or an event
that it has sent to itself stands ahead of all such timeouts, and it starts its timer again before
it is offered any of them.

What other machines do changes neither. A sign of the master leads to the second case, because what
a supervisor sends to itself comes ahead of everything that waits, and from there the event itself
leads back to the first.
-/
import BusNode.Proofs.Reactor.Chronicle
import BusNode.Proofs.Reactor.Sparing
import BusNode.Proofs.Reactor.Timeouts
import BusNode.Proofs.Supervisor.Standing

namespace BusNode.Supervisor

open Reactor (Core Desk Entry Happening Incident Ledger)

variable {depth queueDepth traceDepth : Depth} {count timerCount : Nat}

/-! ### Which timers a supervisor touches -/

section Touches

variable {agent : Agent Supervisor} {event : Event} {kind : UInt8 → Prop}

theorem admits_keeps : (agent.admits event).Keeps (Service.Within kind) fun admitted =>
    admitted = true → event.id = Event.selfId → event.p8 = agent.context.id := by
  unfold Agent.admits
  split
  · rename_i timeout
    have other : event.id ≠ Event.selfId := by
      rw [timeout]
      decide
    refine Script.Keeps.bind (.call trivial) fun current _ => ?_
    cases current with
    | true => exact fun _ self => absurd self other
    | false => exact ⟨trivial, fun _ _ self => absurd self other⟩
  · intro admitted self
    simpa [self] using admitted

theorem rearm_keeps (own : kind agent.body.timer) :
    (rearm agent).Keeps (Service.Within kind) fun after =>
      after.body.timer = agent.body.timer := by
  refine Script.Keeps.bind (.call trivial) fun ticks _ => ?_
  exact Script.Keeps.bind (.call own) fun _ _ => rfl

/-- A supervisor touches no timer but its own, and that only on an event it has sent to itself. -/
theorem handle_keeps (own : event.id = Event.selfId → kind agent.body.timer) :
    (Machine.handle event agent).Keeps (Service.Within kind) fun outcome =>
      outcome.2.body.timer = agent.body.timer := by
  by_cases awake : agent.context.state = running
  · rw [handle_running awake, handleRunning]
    split
    · exact Script.Keeps.bind (.call trivial) fun _ _ => rfl
    · split
      · rename_i self
        exact (rearm_keeps (own self)).bind fun _ kept => kept
      · split <;> exact rfl
  by_cases listening : agent.context.state = lost
  · rw [handle_lost listening, handleLost]
    split
    · exact Script.Keeps.bind (.call trivial) fun _ _ => rfl
    · split <;> exact rfl
  · rw [handle_elsewhere awake listening]
    exact rfl

theorem notify_keeps (own : event.id = Event.selfId → kind agent.body.timer) :
    (agent.notify event).Keeps (Service.Within kind) fun after =>
      after.body.timer = agent.body.timer :=
  (handle_keeps own).bind fun _ kept => kept

theorem entry_keeps (context : Context) :
    (Agent.notify .entry { agent with context }).Keeps (Service.Within kind) fun after =>
      after.body.timer = agent.body.timer :=
  @notify_keeps { agent with context } .entry kind fun self => absurd self (by decide)

theorem start_keeps (id : UInt8) : (agent.start id).Keeps (Service.Within kind) fun after =>
    after.body.timer = agent.body.timer :=
  Script.Keeps.bind (.call trivial) fun _ _ => entry_keeps { state := 0, id }

theorem moveTo_keeps (state : UInt8) :
    (agent.moveTo state).Keeps (Service.Within kind) fun after =>
      after.body.timer = agent.body.timer := by
  have leaves : (agent.notify .exit).Keeps (Service.Within kind) fun left =>
      left.body.timer = agent.body.timer := by
    refine notify_keeps fun self => ?_
    exact absurd self (by decide)
  refine leaves.bind fun left same => ?_
  rw [← same]
  refine Script.Keeps.bind (.call trivial) fun _ _ => ?_
  exact Script.Keeps.bind (.call trivial) fun _ _ => entry_keeps { left.context with state }

theorem dispatch_keeps
    (own : event.id = Event.selfId → event.p8 = agent.context.id → kind agent.body.timer) :
    (agent.dispatch event).Keeps (Service.Within kind) fun outcome =>
      outcome.2.body.timer = agent.body.timer := by
  refine admits_keeps.bind fun admitted mine => ?_
  cases admitted with
  | false => exact rfl
  | true =>
    have delivers : (agent.deliver event).Keeps (Service.Within kind) fun after =>
        after.body.timer = agent.body.timer := by
      refine (handle_keeps fun self => own self (mine rfl self)).bind fun outcome kept => ?_
      obtain ⟨transition, after⟩ := outcome
      cases transition with
      | stay => exact kept
      | moveTo state =>
        rw [← kept]
        exact moveTo_keeps state
    exact delivers.bind fun _ kept => kept

theorem abides (kind : UInt8 → Prop) : Reactor.Abides
    (fun agent : Agent Supervisor => agent.body.timer) kind (Service.Within kind) :=
  fun _ _ own => dispatch_keeps fun _ _ => own

end Touches

/-! ### Rest and shelter -/

section Shelter

variable {id timer : UInt8} {limit passed : Nat} {before after : Ledger} {bank later : TimerBank count}
  {entry : Entry} {entries rest : List Entry}

/-- A supervisor rests on its timer. The silence since the last sign of the master is measured in
ticks. Until it reaches the limit no timeout of the last start waits, and a timer that counts does
not end before that. -/
structure Rested (timer : UInt8) (limit passed : Nat) (ledger : Ledger) (entries : List Entry)
    (bank : TimerBank count) : Prop where
  quiet : passed < limit → ∀ entry ∈ entries, ¬ ledger.Current timer entry
  left : bank.remaining timer ≠ 0 → limit ≤ passed + (bank.remaining timer).toNat

/-- An event that a supervisor has sent to itself stands ahead of all timeouts of the last start of
its timer. -/
def Sheltered (id timer : UInt8) (ledger : Ledger) : List Entry → Prop
  | [] => False
  | entry :: rest =>
    (entry.1.id = Event.selfId ∧ entry.1.p8 = id) ∨
      ¬ ledger.Current timer entry ∧ Sheltered id timer ledger rest

/-- A supervisor does not take a timeout for the end of its patience before the limit. -/
inductive Safe (id timer : UInt8) (limit passed : Nat) (ledger : Ledger) (entries : List Entry)
    (bank : TimerBank count) : Prop where
  | rested (rested : Rested timer limit passed ledger entries bank)
  | sheltered (sheltered : Sheltered id timer ledger entries)

theorem current_congr (same : after.latest timer = before.latest timer) :
    after.Current timer entry ↔ before.Current timer entry := by
  rw [Ledger.Current, Ledger.Current, same]

namespace Sheltered

theorem congr (same : after.latest timer = before.latest timer)
    (sheltered : Sheltered id timer before entries) : Sheltered id timer after entries := by
  induction entries with
  | nil => exact sheltered
  | cons entry rest inductionHypothesis =>
    refine sheltered.imp_right fun behind => ⟨?_, inductionHypothesis behind.2⟩
    exact mt (current_congr same).mp behind.1

theorem behind {ledger : Ledger} (sheltered : Sheltered id timer ledger entries)
    (back : List Entry) : Sheltered id timer ledger (entries ++ back) := by
  induction entries with
  | nil => exact sheltered.elim
  | cons entry rest inductionHypothesis =>
    exact sheltered.imp_right fun later => ⟨later.1, inductionHypothesis later.2⟩

theorem ahead {ledger : Ledger} {front : List Entry}
    (foreign : ∀ entry ∈ front, Ledger.Foreign timer entry)
    (sheltered : Sheltered id timer ledger entries) :
    Sheltered id timer ledger (front ++ entries) := by
  induction front with
  | nil => exact sheltered
  | cons entry front inductionHypothesis =>
    obtain ⟨first, others⟩ := List.forall_mem_cons.mp foreign
    exact .inr ⟨Ledger.not_current_of_foreign first, inductionHypothesis others⟩

/-- Foreign entries may get between those that were taken already and those that wait. -/
theorem between {ledger : Ledger} {head front : List Entry}
    (foreign : ∀ entry ∈ front, Ledger.Foreign timer entry)
    (sheltered : Sheltered id timer ledger (head ++ entries)) :
    Sheltered id timer ledger (head ++ (front ++ entries)) := by
  induction head with
  | nil =>
    have first : Sheltered id timer ledger (front ++ entries) := ahead foreign sheltered
    exact first
  | cons entry head inductionHypothesis =>
    exact sheltered.imp_right fun later => ⟨later.1, inductionHypothesis later.2⟩

theorem grown {head : List Entry} (grown : Ledger.Grown timer before after)
    (sheltered : Sheltered id timer before (head ++ before.waiting)) :
    Sheltered id timer after (head ++ after.waiting) := by
  obtain ⟨front, back, waiting, early, -⟩ := grown.waiting
  rw [waiting, ← List.append_assoc]
  exact ((sheltered.between early).behind back).congr grown.latest

end Sheltered

namespace Rested

/-- A supervisor rests as long as its timer is left alone and nothing but foreign entries join those
that wait. -/
theorem kept {others : List Entry} (latest : after.latest timer = before.latest timer)
    (waited : ∀ entry ∈ others, entry ∈ entries ∨ Ledger.Foreign timer entry)
    (same : later.timer? timer = bank.timer? timer)
    (rested : Rested timer limit passed before entries bank) :
    Rested timer limit passed after others later := by
  refine ⟨fun soon entry member => ?_, ?_⟩
  · rcases waited entry member with old | foreign
    · exact mt (current_congr latest).mp (rested.quiet soon entry old)
    · exact Ledger.not_current_of_foreign foreign
  · rw [TimerBank.remaining_congr same]
    exact rested.left

theorem grown {head : List Entry} (grown : Ledger.Grown timer before after)
    (same : later.timer? timer = bank.timer? timer)
    (rested : Rested timer limit passed before (head ++ before.waiting) bank) :
    Rested timer limit passed after (head ++ after.waiting) later := by
  obtain ⟨front, back, waiting, early, late⟩ := grown.waiting
  refine rested.kept grown.latest (fun entry member => ?_) same
  rw [waiting] at member
  simp only [List.mem_append] at member ⊢
  rcases member with ahead | (first | waits) | last
  · exact .inl (.inl ahead)
  · exact .inr (early entry first)
  · exact .inl (.inr waits)
  · exact .inr (late entry last)

theorem tail {ledger : Ledger} (rested : Rested timer limit passed ledger (entry :: rest) bank) :
    Rested timer limit passed ledger rest bank :=
  rested.kept rfl (fun _ member => .inl (List.mem_cons_of_mem entry member)) rfl

end Rested

namespace Safe

theorem congr (same : after.latest timer = before.latest timer)
    (safe : Safe id timer limit passed before entries bank) :
    Safe id timer limit passed after entries bank := by
  cases safe with
  | rested rested => exact .rested (rested.kept same (fun _ => .inl) rfl)
  | sheltered sheltered => exact .sheltered (sheltered.congr same)

/-- What others do leaves a supervisor safe, be it that the next event was already taken for it. -/
theorem grown {head : List Entry} (grown : Ledger.Grown timer before after)
    (same : later.timer? timer = bank.timer? timer)
    (safe : Safe id timer limit passed before (head ++ before.waiting) bank) :
    Safe id timer limit passed after (head ++ after.waiting) later := by
  cases safe with
  | rested rested => exact .rested (rested.grown grown same)
  | sheltered sheltered => exact .sheltered (sheltered.grown grown)

/-- A supervisor is safe without an event that it has not sent to itself. -/
theorem tail {ledger : Ledger} (other : ¬ (entry.1.id = Event.selfId ∧ entry.1.p8 = id))
    (safe : Safe id timer limit passed ledger (entry :: rest) bank) :
    Safe id timer limit passed ledger rest bank := by
  cases safe with
  | rested rested => exact .rested rested.tail
  | sheltered sheltered => exact .sheltered (sheltered.resolve_left other).2

/-- A supervisor that is safe gets a timeout of the last start of its timer only in time. -/
theorem limit_le {ledger : Ledger} (timeout : entry.1.id = Event.timerId)
    (current : ledger.Current timer entry)
    (safe : Safe id timer limit passed ledger (entry :: rest) bank) : limit ≤ passed := by
  cases safe with
  | rested rested =>
    exact Nat.le_of_not_lt fun soon => rested.quiet soon entry List.mem_cons_self current
  | sheltered sheltered =>
    rcases sheltered with ⟨self, -⟩ | ⟨stale, -⟩
    · rw [timeout] at self
      exact absurd self (by decide)
    · exact absurd current stale

/-- When nothing waits there is no shelter. -/
theorem rested_of_nil {ledger : Ledger} (safe : Safe id timer limit passed ledger [] bank) :
    Rested timer limit passed ledger [] bank := by
  cases safe with
  | rested rested => exact rested
  | sheltered sheltered => exact sheltered.elim

end Safe

section Books

variable {ledger : Ledger} {desk : Desk depth count}

/-- What a supervisor has sent to itself shelters it while it stands ahead of all events. -/
theorem sheltered_of_sent {waiting : List Event} (balanced : ledger.Balanced desk)
    (sent : desk.core.waiting = .toSelf id :: waiting) :
    Sheltered id timer ledger ledger.waiting := by
  obtain ⟨entry, rest, split, same, -⟩ := List.map_eq_cons_iff.mp (balanced.waiting.trans sent)
  rw [split]
  exact .inl ⟨congrArg Event.id same, congrArg Event.p8 same⟩

/-- A supervisor rests on a timer that has the whole time before it. -/
theorem rested_of_full (balanced : ledger.Balanced desk)
    (counting : desk.core.timers.remaining timer ≠ 0)
    (full : (desk.core.timers.remaining timer).toNat = limit) (passed : Nat) :
    Rested timer limit passed ledger ledger.waiting desk.core.timers := by
  refine ⟨fun _ entry member current => ?_, fun _ => full ▸ Nat.le_add_left _ _⟩
  obtain ⟨-, start, tagged, last⟩ := current
  refine balanced.counting last counting (Ledger.mem_entered.mpr ⟨entry.1, ?_⟩)
  exact List.mem_append_right _ (tagged ▸ member)

/-- A supervisor rests on a timer that was never started. -/
theorem rested_of_unset (balanced : ledger.Balanced desk) (unset : ledger.latest timer = none)
    (limit passed : Nat) (entries : List Entry) :
    Rested timer limit passed ledger entries desk.core.timers := by
  refine ⟨fun _ entry _ current => ?_, fun counting => ?_⟩
  · obtain ⟨-, start, -, last⟩ := current
    cases unset.symm.trans last
  · obtain ⟨cookie, held⟩ := TimerBank.timer?_of_remaining counting
    have idle := balanced.issued.idle unset held
    exact absurd (congrArg Timer.remaining idle) counting

/-- A supervisor that rests does so after a tick, with one more tick of silence. -/
theorem Rested.tick (balanced : ledger.Balanced desk)
    (granted : ∀ happening ∈ desk.core.tickHappenings, happening.refused = false)
    (rested : Rested timer limit passed ledger ledger.waiting desk.core.timers) :
    Rested timer limit (passed + 1) (desk.core.tickHappenings.foldl Ledger.next ledger)
      (desk.core.tickHappenings.foldl Ledger.next ledger).waiting desk.core.tick.timers := by
  have timers : desk.core.tick.timers = desk.core.timers.tick.2 := Core.timers_emitAll _ _
  refine ⟨fun soon entry member => ?_, fun counting => ?_⟩
  · obtain ⟨latest, back, grown⟩ := Ledger.behind_of_rings desk.core.timers.tick.1
      ({ desk.core with timers := desk.core.timers.tick.2 } : Core depth count) ledger
    have said : back.map Prod.fst = desk.core.timers.expiring := by
      have joined := (congrArg (List.map Prod.fst) grown).symm.trans balanced.tick.waiting
      rw [List.map_append, balanced.waiting, Core.tick_of_granted granted] at joined
      exact List.append_cancel_left joined
    have member : entry ∈ ledger.waiting ++ back := grown ▸ member
    refine mt (current_congr (congrFun latest timer)).mp ?_
    rcases List.mem_append.mp member with waits | rings
    · exact rested.quiet (Nat.lt_of_succ_lt soon) entry waits
    · -- A timeout that is queued now is that of a timer with one tick left.
      rintro ⟨own, -⟩
      have among : entry.1 ∈ desk.core.timers.expiring := said ▸ List.mem_map_of_mem rings
      obtain ⟨index, held, there, last, same⟩ := TimerBank.mem_expiring balanced.issued.named among
      obtain rfl : index = timer := (congrArg Event.p8 same).symm.trans own
      have one : desk.core.timers.remaining index = 1 :=
        (TimerBank.remaining_of_timer? there).trans (of_decide_eq_true last)
      have reached := rested.left (by rw [one]; decide)
      rw [one] at reached
      exact Nat.lt_irrefl _ (Nat.lt_of_lt_of_le soon reached)
  · rw [timers] at counting ⊢
    have before : desk.core.timers.remaining timer ≠ 0 := fun done =>
      counting (TimerBank.remaining_tick_of_zero done)
    have left := rested.left before
    have one := TimerBank.toNat_remaining_tick before
    omega

end Books

end Shelter

/-! ### Signs of the master -/

/-- Whether a supervisor hears from the master: it is offered a request, or it takes the master to be
there from then on. -/
def hears : Incident → Bool
  | .ticked => false
  | .launched => true
  | .offered event before after => event.id = masterCommsId || (before ≠ running && after = running)

/-- How many ticks it was silent since the last sign of the master. -/
def silence (passed : Nat) : Incident → Nat
  | .ticked => passed + 1
  | .launched => 0
  | .offered event before after => if hears (.offered event before after) then 0 else passed

/-- A supervisor gives up the master only when the silence has lasted up to the limit. -/
def Patient (limit passed : Nat) : Incident → Prop
  | .offered _ before after => before = running → after = lost → limit ≤ passed
  | .ticked | .launched => True

/-! ### What becomes of an offered event -/

/-- Nothing that is published is refused, nobody but the timers publishes timeouts, and these are
given to machines promptly. -/
structure Fair (ledger : Ledger) (history : List Happening) : Prop where
  granted : ∀ happening ∈ history, happening.refused = false
  honest : ∀ happening ∈ history, happening.forged = false
  prompt : Guarded Ledger.next Ledger.Prompt ledger history

theorem Fair.tail {ledger : Ledger} {happening : Happening} {rest : List Happening}
    (fair : Fair ledger (happening :: rest)) : Fair (ledger.next happening) rest :=
  ⟨(List.forall_mem_cons.mp fair.granted).2, (List.forall_mem_cons.mp fair.honest).2, fair.prompt.2⟩

theorem fair_append {ledger : Ledger} {first second : List Happening} :
    Fair ledger (first ++ second) ↔
      Fair ledger first ∧ Fair (first.foldl Ledger.next ledger) second := by
  constructor
  · rintro ⟨granted, honest, prompt⟩
    obtain ⟨granted, granted'⟩ := List.forall_mem_append.mp granted
    obtain ⟨honest, honest'⟩ := List.forall_mem_append.mp honest
    obtain ⟨prompt, prompt'⟩ := (guarded_append _ _ _).mp prompt
    exact ⟨⟨granted, honest, prompt⟩, granted', honest', prompt'⟩
  · rintro ⟨early, late⟩
    exact ⟨List.forall_mem_append.mpr ⟨early.granted, late.granted⟩,
      List.forall_mem_append.mpr ⟨early.honest, late.honest⟩,
      (guarded_append _ _ _).mpr ⟨early.prompt, late.prompt⟩⟩

section Offers

variable {World : Type} [Clock World] [Journal World]

/-- Nothing happens to its timer when a supervisor is offered an event that it has not sent to
itself. -/
theorem spares_dispatch {event : Event} {agent : Agent Supervisor}
    (other : ¬ (event.id = Event.selfId ∧ event.p8 = agent.context.id)) (name : Nat)
    (reactor : Reactor queueDepth traceDepth timerCount) (world : World) :
    ∀ happening ∈ Reactor.dispatchHistory name event agent reactor world,
      happening.Spares agent.body.timer ∧ happening.takes = false := by
  have keeps : (agent.dispatch event).Keeps (Service.Within (· ≠ agent.body.timer)) _ :=
    dispatch_keeps fun self own => absurd ⟨self, own⟩ other
  have plays : ∀ happening ∈ Reactor.playHistory (agent.dispatch event) reactor world,
      happening.Spares agent.body.timer ∧ happening.takes = false :=
    (Reactor.keeps_play keeps (fun _ within => Core.spares_happenings within) reactor world).2
  refine List.forall_mem_append.mpr ⟨?_, plays⟩
  split
  · exact List.forall_mem_singleton.mpr ⟨trivial, rfl⟩
  · exact List.forall_mem_nil _

/-- The event that was taken last is offered to a supervisor while the books balance. -/
structure Offered (name : Nat) (event : Event) (agent : Agent Supervisor)
    (reactor : Reactor queueDepth traceDepth timerCount) (world : World) (ledger later : Ledger)
    (desk last : Desk queueDepth timerCount) : Prop where
  inside : agent.body.timer.toNat < timerCount
  balanced : ledger.Balanced desk
  start : desk.core = reactor.core
  offered : desk.offered = some event
  course : Reactor.Course desk (Reactor.dispatchHistory name event agent reactor world) last
  ended : last.core = (reactor.play (agent.dispatch event) world).1.2.core
  books : (Reactor.dispatchHistory name event agent reactor world).foldl Ledger.next ledger = later
  fair : Fair ledger (Reactor.dispatchHistory name event agent reactor world)

/-- What becomes of a supervisor with an event that it is offered. -/
structure Answers (limit passed : Nat) (event : Event) (agent after : Agent Supervisor)
    (ledger : Ledger) (bank : TimerBank timerCount) : Prop where
  known : after.context.state = running ∨ after.context.state = lost
  patient : Patient limit passed (.offered event agent.context.state after.context.state)
  safe : after.context.state = running → Safe after.context.id agent.body.timer limit
    (silence passed (.offered event agent.context.state after.context.state)) ledger ledger.waiting
    bank

/-- A supervisor that takes the master to be there has not given it up. -/
theorem Answers.awake {limit passed : Nat} {event : Event} {agent after : Agent Supervisor}
    {ledger : Ledger} {bank : TimerBank timerCount} (here : after.context.state = running)
    (safe : Safe after.context.id agent.body.timer limit
      (silence passed (.offered event agent.context.state after.context.state)) ledger ledger.waiting
      bank) : Answers limit passed event agent after ledger bank :=
  ⟨.inl here, fun _ gone => absurd (here.symm.trans gone) running_ne_lost, fun _ => safe⟩

namespace Offered

variable {name limit passed : Nat} {event : Event} {agent after : Agent Supervisor}
  {reactor : Reactor queueDepth traceDepth timerCount} {world : World} {ledger later : Ledger}
  {desk last : Desk queueDepth timerCount} {core : Core queueDepth timerCount} {given : Bool}
  {entry : Entry} (offered : Offered name event agent reactor world ledger later desk last)

include offered

/-- The books balance when the supervisor has answered. -/
theorem balances : later.Balanced last :=
  offered.books ▸ (offered.balanced.course offered.course offered.fair.honest).2

theorem played (only : Core.PlaysOnly (agent.dispatch event) reactor.core (given, after) core) :
    (reactor.play (agent.dispatch event) world).1.1 = (given, after) ∧ last.core = core := by
  obtain ⟨result, reached⟩ := reactor.play_only only world
  exact ⟨result, offered.ended.trans reached⟩

/-- A supervisor that sends itself an event is sheltered. -/
theorem sheltered
    (only : Core.PlaysOnly (agent.dispatch event) reactor.core (given, after)
      (reactor.core.publish .front (.toSelf agent.context.id)).2)
    (brings : Core.Brings (agent.dispatch event) reactor.core
      (.published .front (.toSelf agent.context.id)
        (reactor.core.publish .front (.toSelf agent.context.id)).1)) (timer : UInt8) :
    Sheltered agent.context.id timer later later.waiting := by
  have queued := Happening.queued_of_granted
    (offered.fair.granted _ (List.mem_append_right _ (brings _ _ reactor world rfl)))
  have sent : last.core.waiting = .toSelf agent.context.id :: reactor.core.waiting := by
    rw [(offered.played only).2, Core.publish_of_granted rfl .front queued]
    rfl
  exact sheltered_of_sent offered.balances sent

theorem taken_eq (taken : ledger.taken.getLast? = some entry) : entry.1 = event := by
  have offers := offered.balanced.offered.trans offered.offered
  rw [taken] at offers
  exact Option.some.inj offers

/-- An event that a supervisor does not react to leaves it as safe as it was. -/
theorem answers_idle (here : agent.context.state = running)
    (taken : ledger.taken.getLast? = some entry) (quiet : isSign event ≠ true)
    (other : ¬ (event.id = Event.selfId ∧ event.p8 = agent.context.id))
    (safe : Safe agent.context.id agent.body.timer limit passed ledger (entry :: ledger.waiting)
      reactor.core.timers) :
    Answers limit passed event agent agent later last.core.timers := by
  have silent : silence passed (.offered event agent.context.state agent.context.state) = passed := by
    have unsigned := (not_or.mp (mt isSign_iff.mpr quiet)).2
    simp [silence, hears, here, unsigned]
  have spares := spares_dispatch other name reactor world
  have grown : Ledger.Grown agent.body.timer ledger later :=
    offered.books ▸ Ledger.grown_of_spares spares ledger
  have same : last.core.timers.timer? agent.body.timer =
      reactor.core.timers.timer? agent.body.timer := by
    rw [← offered.start]
    exact offered.course.timer?_of_spares fun happening member => (spares happening member).1
  rw [← offered.taken_eq taken] at other
  have behind : Safe agent.context.id agent.body.timer limit passed ledger ([] ++ ledger.waiting)
      reactor.core.timers := safe.tail other
  refine .awake here ?_
  rw [silent]
  exact behind.grown grown same

/-- A supervisor that gives up the master does so in time. -/
theorem limit_le (taken : ledger.taken.getLast? = some entry)
    (only : Core.PlaysOnly (agent.dispatch event) reactor.core (true, after) core)
    (timeout : event.id = Event.timerId) (own : event.p8 = agent.body.timer)
    (current : reactor.core.timers.isCurrent event = true)
    (safe : Safe agent.context.id agent.body.timer limit passed ledger (entry :: ledger.waiting)
      reactor.core.timers) : limit ≤ passed := by
  have live := offered.balanced.live offered.offered timeout (offered.start ▸ current)
  have prompt : ledger.Prompt (.given name event) := by
    have first := offered.fair.prompt
    rw [Reactor.dispatchHistory, (offered.played only).1, if_pos rfl] at first
    exact first.1
  obtain ⟨start, last, latest⟩ := live.latest prompt
  obtain rfl := Option.some.inj (taken.symm.trans last)
  exact safe.limit_le timeout ⟨own, start, rfl, own ▸ latest⟩

/-- What becomes of a supervisor that takes the master to be there. -/
theorem answers_running (here : agent.context.state = running)
    (taken : ledger.taken.getLast? = some entry)
    (limited : (reactor.core.config.ticksIn patience).toNat = limit)
    (safe : Safe agent.context.id agent.body.timer limit passed ledger (entry :: ledger.waiting)
      reactor.core.timers) :
    Answers limit passed event agent (reactor.play (agent.dispatch event) world).1.1.2 later
      last.core.timers := by
  by_cases sign : isSign event = true
  · have only : Core.PlaysOnly (agent.dispatch event) reactor.core (true, agent) _ :=
      dispatch_sign_running here sign
    rw [(offered.played only).1]
    exact .awake here
      (.sheltered (offered.sheltered only (brings_sign_running here sign) agent.body.timer))
  by_cases own : event.id = Event.selfId ∧ event.p8 = agent.context.id
  · have admitted : reactor.core.admits event agent = true := by
      simp [Core.admits, own, Event.selfId, Event.timerId]
    have only : Core.PlaysOnly (agent.dispatch event) reactor.core (true, setLight .healthy agent)
        (reactor.core.startTimer agent.body.timer (reactor.core.config.ticksIn patience)).2 :=
      .dispatch admitted (.deliver_stay (rearms_running here own.1))
    obtain ⟨result, reached⟩ := offered.played only
    have full : last.core.timers.remaining agent.body.timer = reactor.core.config.ticksIn patience := by
      rw [reached]
      exact TimerBank.remaining_of_timer? (rearmed offered.inside reactor.core).timer
    rw [result]
    refine .awake here (.rested ?_)
    refine rested_of_full offered.balances ?_ (full ▸ limited) _
    exact full ▸ ticksIn_patience_ne_zero reactor.core.config
  cases admitted : reactor.core.admits event agent with
  | false =>
    rw [(offered.played (.dispatch_of_not_admits admitted)).1]
    exact offered.answers_idle here taken sign own safe
  | true =>
    by_cases timeout : event.id = Event.timerId ∧ event.p8 = agent.body.timer
    · have only : Core.PlaysOnly (agent.dispatch event) reactor.core
          (true, setLight .noMaster (inState lost agent)) reactor.core :=
        .dispatch admitted (.deliver_moveTo (leaves_running here timeout.1 timeout.2)
          (.moveTo (passes_over (concerns_exit _)) (shows_lost rfl rfl)))
      have current : reactor.core.timers.isCurrent event = true :=
        (if_pos timeout.1).symm.trans admitted
      have due := offered.limit_le taken only timeout.1 timeout.2 current safe
      rw [(offered.played only).1]
      exact ⟨.inr rfl, fun _ _ => due, fun back => absurd back.symm running_ne_lost⟩
    · have foreign : event.id ≠ Event.selfId := fun self => by
        have mine : event.p8 = agent.context.id := by
          simpa [Core.admits, self, Event.selfId, Event.timerId] using admitted
        exact own ⟨self, mine⟩
      have idle : concerns agent.body.timer event = false := by
        have quiet := not_or.mp (mt isSign_iff.mpr sign)
        simpa [concerns, quiet, foreign] using not_and.mp timeout
      rw [(offered.played (.dispatch admitted (.deliver_stay (passes_over idle)))).1]
      exact offered.answers_idle here taken sign own safe

/-- What becomes of a supervisor that has lost the master. -/
theorem answers_lost (here : agent.context.state = lost) :
    Answers limit passed event agent (reactor.play (agent.dispatch event) world).1.1.2 later
      last.core.timers := by
  have stays {after : Agent Supervisor} (state : after.context.state = lost) :
      Answers limit passed event agent after later last.core.timers :=
    ⟨.inr state, fun awake => absurd (awake.symm.trans here) running_ne_lost,
      fun awake => absurd (awake.symm.trans state) running_ne_lost⟩
  cases admitted : reactor.core.admits event agent with
  | false =>
    rw [(offered.played (.dispatch_of_not_admits admitted)).1]
    exact stays here
  | true =>
    by_cases sign : isSign event = true
    · rcases isSign_iff.mp sign with entry | comms
      · rw [(offered.played (.dispatch admitted (.deliver_stay (shows_lost here entry)))).1]
        exact stays here
      · have listening : listens agent = true := by simp [listens, here]
        have moved : roused agent = inState running agent := if_pos here
        have only : Core.PlaysOnly (agent.dispatch event) reactor.core _ _ := dispatch_comms comms
        rw [moved, if_pos listening] at only
        rw [(offered.played only).1]
        exact .awake rfl
          (.sheltered (offered.sheltered only (brings_comms_lost here comms) agent.body.timer))
    · rw [(offered.played (.dispatch admitted (.deliver_stay (stays_lost here sign)))).1]
      exact stays here

/-- What becomes of a supervisor that is safe while it takes the master to be there. -/
theorem answers (known : agent.context.state = running ∨ agent.context.state = lost)
    (taken : ledger.taken.getLast? = some entry)
    (limited : (reactor.core.config.ticksIn patience).toNat = limit)
    (safe : agent.context.state = running → Safe agent.context.id agent.body.timer limit passed ledger
      (entry :: ledger.waiting) reactor.core.timers) :
    Answers limit passed event agent (reactor.play (agent.dispatch event) world).1.1.2 later
      last.core.timers := by
  rcases known with here | here
  · exact offered.answers_running here taken limited (safe here)
  · exact offered.answers_lost here

end Offered

end Offers

end BusNode.Supervisor
