/-
This file follows one supervisor through two runs, one in the company of others and one on its own,
from one event to the next. An event of the first run may be for others only. Then the supervisor
passes it over, and the second run waits. Any other event is handed out in both runs, and the
supervisor is given it in both or in neither, and answers it alike. What the others do meanwhile
queues events that are for others only, and starts timers that are not its own.

On its own the supervisor could take an old timeout for the last one only after a whole round of
starts. But it starts no timer between two drains, and a drain of its own queue hands out few
events.
-/
import BusNode.Proofs.Reactor.Chronicle
import BusNode.Proofs.Reactor.Seclusion
import BusNode.Proofs.Reactor.Sparing
import BusNode.Proofs.Supervisor.Answering
import BusNode.Proofs.Supervisor.Draining

namespace BusNode.Supervisor

open Reactor (Core Desk Entry Happening Ledger)
open Reactor.Ledger (Elsewhere Mirrors Reduces Same)

variable {queueDepth traceDepth : Depth} {timerCount : Nat} {timer : UInt8} {own : UInt8 → Prop}
  {ledger ledger' : Ledger} {desk desk' : Desk queueDepth timerCount}

/-! ### One service -/

/-- What a supervisor asks for is granted to it alone if it is granted among others. -/
theorem mirrors_obey (mirrors : Mirrors timer own ledger desk ledger' desk')
    (inside : timer.toNat < timerCount) {id : UInt8} {asked : Option Service}
    (asks : ∀ service ∈ asked, Asks desk.core.config id timer service)
    (granted : ∀ happening ∈ desk.core.errands asked, happening.refused = false) :
    (∀ happening ∈ desk'.core.errands asked, happening.refused = false) ∧
      Mirrors timer own ((desk.core.errands asked).foldl Ledger.next ledger)
        { desk with core := desk.core.obey asked }
        ((desk'.core.errands asked).foldl Ledger.next ledger')
        { desk' with core := desk'.core.obey asked } := by
  cases asked with
  | none => exact ⟨List.forall_mem_nil _, mirrors⟩
  | some service =>
    cases asks service rfl with
    | post =>
      have queued : (desk.core.publish .front (.toSelf id)).1 = true :=
        Happening.queued_of_granted (granted _ List.mem_cons_self)
      obtain ⟨queued', posted⟩ := mirrors.publish .front (Event.id_toSelf_ne id) queued
      have marks {core : Core queueDepth timerCount}
          (queued : (core.publish .front (.toSelf id)).1 = true) :
          core.errands (some (.publish .front (.toSelf id))) =
            [.published .front (.toSelf id) true] := by
        rw [← queued]
        rfl
      rw [marks queued, marks queued']
      exact ⟨List.forall_mem_singleton.mpr rfl, posted⟩
    | rearm =>
      have positive := ticksIn_patience_ne_zero desk.core.config
      refine ⟨fun happening member => ?_, mirrors.startTimer inside positive⟩
      have start : desk'.core.timers.start? timer (desk.core.config.ticksIn patience) = some _ :=
        dif_pos inside
      rw [Core.errands, Option.elim_some, Core.happenings_of_start? positive start] at member
      rw [List.mem_singleton.mp member]
      rfl

/-- What another supervisor asks for makes no difference to the one alone. -/
theorem mirrors_obey_elsewhere (mirrors : Mirrors timer own ledger desk ledger' desk')
    {config : Reactor.Config} {id index : UInt8} (foreign : ¬ own id) (other : index ≠ timer)
    {asked : Option Service} (asks : ∀ service ∈ asked, Asks config id index service) :
    Mirrors timer own ((desk.core.errands asked).foldl Ledger.next ledger)
        { desk with core := desk.core.obey asked } ledger' desk' ∧
      ((desk.core.errands asked).foldl Ledger.next ledger).latest timer = ledger.latest timer ∧
      ((desk.core.errands asked).foldl Ledger.next ledger).taken = ledger.taken := by
  cases asked with
  | none => exact ⟨mirrors, rfl, rfl⟩
  | some service =>
    have within : service.Within (· ≠ timer) := by
      cases asks service rfl with
      | post => trivial
      | rearm => exact other
    have grown := Ledger.grown_of_spares (Core.spares_happenings within desk.core) ledger
    refine ⟨?_, grown.latest, grown.taken⟩
    cases asks service rfl with
    | post => exact mirrors.publish_elsewhere foreign
    | rearm => exact mirrors.startTimer_elsewhere other (ticksIn_patience_ne_zero config)

/-! ### One machine -/

section Machines

variable {World : Type} [Clock World] [Journal World] {event : Event} {agent : Agent Supervisor}
  {reactor reactor' : Reactor queueDepth traceDepth timerCount} {world world' : World}

theorem dispatch_plays (name : Nat) (event : Event) (agent : Agent Supervisor)
    (reactor : Reactor queueDepth traceDepth timerCount) (world : World) :
    (reactor.play (agent.dispatch event) world).1.1.2 = (reply reactor.core event agent).1 ∧
      (reactor.play (agent.dispatch event) world).1.2.core =
        reactor.core.obey (reply reactor.core event agent).2 ∧
      Reactor.dispatchHistory name event agent reactor world =
        (if reactor.core.admits event agent then [.given name event] else []) ++
          reactor.core.errands (reply reactor.core event agent).2 := by
  obtain ⟨outcome, core, history⟩ :=
    (dispatch_does event agent reactor.core).play reactor world rfl
  refine ⟨congrArg Prod.snd outcome, core, ?_⟩
  rw [Reactor.dispatchHistory, outcome, history]

/-- A supervisor that an event does not concern, because it is another one or because the event is
for others only. -/
inductive Aside (timer : UInt8) (own : UInt8 → Prop) (event : Event) (agent : Agent Supervisor) :
    Prop where
  | other (foreign : ¬ own agent.context.id) (different : agent.body.timer ≠ timer)
  | passed (mine : own agent.context.id) (same : agent.body.timer = timer)
      (elsewhere : Elsewhere timer own event)

theorem reply_elsewhere (mine : own agent.context.id)
    (elsewhere : Elsewhere agent.body.timer own event)
    (core : Core queueDepth timerCount) : reply core event agent = (agent, none) := by
  rcases elsewhere with ⟨self, foreign⟩ | ⟨timeout, different⟩
  -- What another one sends to itself is held back. A timeout may be given, but is not looked at.
  · have other : event.p8 ≠ agent.context.id := fun same => foreign (same ▸ mine)
    have selfNotTimer : Event.selfId ≠ Event.timerId := by decide
    have refused : core.admits event agent = false := by
      simp [Core.admits, self, other, selfNotTimer]
    rw [reply, refused, if_neg Bool.false_ne_true]
  · have quiet : answer core.config event agent = (agent, none) := by
      have others : isSign event = false ∧ event.id ≠ Event.selfId ∧ event.id ≠ Event.entryId ∧
          event.id ≠ masterCommsId := by
        rw [isSign, timeout]
        decide
      simp [answer, others, different]
    rw [reply, quiet, ite_self]

/-- A supervisor is given the event that was taken, or not. -/
theorem mirrors_mark (mirrors : Mirrors timer own ledger desk ledger' desk')
    (offered : desk.offered = some event) {name : Nat} (fresh : name ∉ desk.served) (given : Bool) :
    let later := (if given then [.given name event] else []).foldl Ledger.next ledger
    ∃ served, (∀ other, other ≠ name → other ∉ desk.served → other ∉ served) ∧
      Mirrors timer own later { desk with served } ledger' desk' ∧
      later.latest = ledger.latest ∧ later.taken = ledger.taken := by
  cases given with
  | false => exact ⟨desk.served, fun _ _ absent => absent, mirrors, rfl, rfl⟩
  | true =>
    obtain ⟨-, latest, -, taken⟩ := Ledger.next_given name event ledger
    refine ⟨name :: desk.served, fun other different absent among => ?_, mirrors.give offered fresh,
      latest, taken⟩
    exact (List.mem_cons.mp among).elim different absent

theorem mirrors_mark_alone (mirrors : Mirrors timer own ledger desk ledger' desk')
    (offered : desk'.offered = some event) {name : Nat} (fresh : name ∉ desk'.served)
    (given : Bool) :
    ∃ served, Mirrors timer own ledger desk
      ((if given then [.given name event] else []).foldl Ledger.next ledger')
      { desk' with served } := by
  cases given with
  | false => exact ⟨desk'.served, mirrors⟩
  | true => exact ⟨name :: desk'.served, mirrors.give_alone offered fresh⟩

/-- What an event makes a supervisor do that it does not concern leaves the two runs in step. -/
theorem mirrors_dispatch_aside (mirrors : Mirrors timer own ledger desk ledger' desk')
    (same : desk.core = reactor.core) (offered : desk.offered = some event) {name : Nat}
    (fresh : name ∉ desk.served) (aside : Aside timer own event agent) (world : World) :
    let history := Reactor.dispatchHistory name event agent reactor world
    ∃ served, (∀ other, other ≠ name → other ∉ desk.served → other ∉ served) ∧
      Mirrors timer own (history.foldl Ledger.next ledger)
        { desk with core := (reactor.play (agent.dispatch event) world).1.2.core, served }
        ledger' desk' ∧
      (history.foldl Ledger.next ledger).latest timer = ledger.latest timer ∧
      (history.foldl Ledger.next ledger).taken = ledger.taken := by
  obtain ⟨-, core, history⟩ := dispatch_plays name event agent reactor world
  obtain ⟨served, kept, marked, latest, taken⟩ :=
    mirrors_mark mirrors offered fresh (reactor.core.admits event agent)
  intro happenings
  have split : happenings = _ ++ _ := history
  rw [split, List.foldl_append, core, ← same]
  rw [← same] at marked latest taken
  refine ⟨served, kept, ?_⟩
  cases aside with
  | other foreign different =>
    obtain ⟨obeyed, still, later⟩ :=
      mirrors_obey_elsewhere marked foreign different (reply_asks desk.core event agent)
    exact ⟨obeyed, still.trans (congrFun latest timer), later.trans taken⟩
  | passed mine own elsewhere =>
    rw [reply_elsewhere mine (own ▸ elsewhere)]
    exact ⟨marked, congrFun latest timer, taken⟩

section Same

variable {entry entry' : Entry} (mirrors : Mirrors timer own ledger desk ledger' desk')
  (alike : Same timer (ledger.latest timer) (ledger'.latest timer) entry entry')
  (taken : ledger.taken.getLast? = some entry) (taken' : ledger'.taken.getLast? = some entry')

include mirrors alike taken taken'

/-- An event is held back from a supervisor in both runs or in neither. -/
theorem admits_same
    (near : desk.core.admits entry.1 agent = true → ∀ start ∈ entry.2,
      ledger.starts.length - (start + 1) < TimerBank.round)
    (near' : ∀ start ∈ entry'.2, ledger'.starts.length - (start + 1) < TimerBank.round) :
    desk'.core.admits entry'.1 agent = desk.core.admits entry.1 agent := by
  cases alike with
  | event other => rw [Core.admits, Core.admits, if_neg other, if_neg other]
  | timeout live =>
    have current {core : Core queueDepth timerCount} {cookie : UInt16} :
        core.admits (.timeout timer cookie) agent =
          core.timers.isCurrent (.timeout timer cookie) := if_pos rfl
    rw [current] at near
    rw [current, current, Bool.eq_iff_iff,
      mirrors.balanced.isCurrent_iff taken fun now => near now _ rfl,
      mirrors.balanced'.isCurrent_iff taken' fun _ => near' _ rfl]
    exact live.symm

/-- What becomes of a supervisor and what it asks for is the same in both runs. -/
theorem reply_same
    (near : desk.core.admits entry.1 agent = true → ∀ start ∈ entry.2,
      ledger.starts.length - (start + 1) < TimerBank.round)
    (near' : ∀ start ∈ entry'.2, ledger'.starts.length - (start + 1) < TimerBank.round) :
    reply desk'.core entry'.1 agent = reply desk.core entry.1 agent := by
  rw [reply, reply, admits_same mirrors alike taken taken' near near', mirrors.config]
  cases alike with
  | event | timeout => rfl

/-- A supervisor that is offered the same event in both runs does the same in both. -/
theorem mirrors_dispatch (same : desk.core = reactor.core) (same' : desk'.core = reactor'.core)
    (its : agent.body.timer = timer) (inside : timer.toNat < timerCount) {name name' : Nat}
    (fresh : name ∉ desk.served) (fresh' : name' ∉ desk'.served)
    (granted : ∀ happening ∈ Reactor.dispatchHistory name entry.1 agent reactor world,
      happening.refused = false)
    (prompt : Guarded Ledger.next Ledger.Prompt ledger
      (Reactor.dispatchHistory name entry.1 agent reactor world))
    (near' : ∀ start ∈ entry'.2, ledger'.starts.length - (start + 1) < TimerBank.round)
    (world' : World) :
    let history := Reactor.dispatchHistory name entry.1 agent reactor world
    let history' := Reactor.dispatchHistory name' entry'.1 agent reactor' world'
    (reactor'.play (agent.dispatch entry'.1) world').1.1.2 =
        (reactor.play (agent.dispatch entry.1) world).1.1.2 ∧
      (∀ happening ∈ history', happening.refused = false) ∧
      ∃ served served', (∀ other, other ≠ name → other ∉ desk.served → other ∉ served) ∧
        Mirrors timer own (history.foldl Ledger.next ledger)
          { desk with core := (reactor.play (agent.dispatch entry.1) world).1.2.core, served }
          (history'.foldl Ledger.next ledger')
          { desk' with
            core := (reactor'.play (agent.dispatch entry'.1) world').1.2.core
            served := served' } := by
  obtain ⟨after, core, history⟩ := dispatch_plays name entry.1 agent reactor world
  obtain ⟨after', core', history'⟩ := dispatch_plays name' entry'.1 agent reactor' world'
  rw [history] at granted prompt
  rw [history, history', core, core', after, after', ← same, ← same']
  rw [← same] at granted prompt
  have near : desk.core.admits entry.1 agent = true → ∀ start ∈ entry.2,
      ledger.starts.length - (start + 1) < TimerBank.round := by
    intro admitted
    rw [admitted, if_pos rfl] at prompt
    exact prompt.1 entry taken
  have offered : desk.offered = some entry.1 := by
    rw [← mirrors.balanced.offered, taken]
    rfl
  have offered' : desk'.offered = some entry'.1 := by
    rw [← mirrors.balanced'.offered, taken']
    rfl
  rw [reply_same mirrors alike taken taken' near near',
    admits_same mirrors alike taken taken' near near']
  obtain ⟨served, kept, marked, -⟩ :=
    mirrors_mark mirrors offered fresh (desk.core.admits entry.1 agent)
  obtain ⟨served', marked⟩ :=
    mirrors_mark_alone marked offered' fresh' (desk.core.admits entry.1 agent)
  have asks : ∀ service ∈ (reply desk.core entry.1 agent).2,
      Asks desk.core.config agent.context.id timer service :=
    its ▸ reply_asks desk.core entry.1 agent
  obtain ⟨granted', obeyed⟩ :=
    mirrors_obey marked inside asks (List.forall_mem_append.mp granted).2
  refine ⟨rfl, List.forall_mem_append.mpr ⟨?_, granted'⟩, served, served', kept, ?_⟩
  · split
    · exact List.forall_mem_singleton.mpr rfl
    · exact List.forall_mem_nil _
  · rw [List.foldl_append, List.foldl_append]
    exact obeyed

end Same

/-! ### All machines -/

/-- An event that is offered to supervisors that it does not concern leaves the two runs in step,
and the one that is watched as it is. -/
theorem mirrors_offer_aside {machines : List (Nat × Agent Supervisor)}
    (distinct : (machines.map Prod.fst).Nodup)
    (aside : ∀ machine ∈ machines, Aside timer own event machine.2)
    (reactor : Reactor queueDepth traceDepth timerCount) (world : World)
    (mirrors : Mirrors timer own ledger desk ledger' desk') (same : desk.core = reactor.core)
    (offered : desk.offered = some event) (fresh : ∀ machine ∈ machines, machine.1 ∉ desk.served) :
    (∀ {place : Nat} {name : Nat} {agent : Agent Supervisor},
      machines[place]? = some (name, agent) → own agent.context.id → agent.body.timer = timer →
        (reactor.offer event (machines.map Prod.snd) world).1.1[place]? = some agent) ∧
      ∃ served, Mirrors timer own
        ((Reactor.offerHistory event machines reactor world).foldl Ledger.next ledger)
        { desk with
          core := (reactor.offer event (machines.map Prod.snd) world).1.2.core
          served } ledger' desk' := by
  induction machines generalizing ledger desk reactor world with
  | nil =>
    refine ⟨fun there => absurd there nofun, desk.served, ?_⟩
    show Mirrors timer own ledger { desk with core := reactor.core } ledger' desk'
    rw [← same]
    exact mirrors
  | cons machine rest inductionHypothesis =>
    obtain ⟨name, first⟩ := machine
    obtain ⟨apart, distinct⟩ := List.nodup_cons.mp distinct
    obtain ⟨now, others⟩ := List.forall_mem_cons.mp aside
    obtain ⟨unserved, later⟩ := List.forall_mem_cons.mp fresh
    obtain ⟨served, kept, dispatched, -⟩ :=
      mirrors_dispatch_aside mirrors same offered unserved now world
    have still : ∀ machine ∈ rest, machine.1 ∉ served := fun machine member =>
      kept _ (fun equal => apart (equal ▸ List.mem_map_of_mem member)) (later machine member)
    obtain ⟨stays, served, onward⟩ := inductionHypothesis distinct others
      (reactor.play (first.dispatch event) world).1.2 (reactor.play (first.dispatch event) world).2
      dispatched rfl offered still
    refine ⟨fun {place other agent} there mine its => ?_, served, ?_⟩
    · cases place with
      | succ place => exact stays there mine its
      | zero =>
        obtain ⟨-, rfl⟩ := Prod.mk.inj (Option.some.inj there)
        have after := (dispatch_plays name event first reactor world).1
        cases now with
        | other foreign => exact absurd mine foreign
        | passed _ _ elsewhere =>
          rw [reply_elsewhere mine (its ▸ elsewhere)] at after
          exact congrArg some after
    · have parts : Reactor.offerHistory event ((name, first) :: rest) reactor world =
        Reactor.dispatchHistory name event first reactor world ++ _ := rfl
      rw [parts, List.foldl_append]
      exact onward

/-- An event that is offered to all supervisors in one run and to the one that is watched in the
other makes that one do the same in both. -/
theorem mirrors_offer {machines : List (Nat × Agent Supervisor)}
    (distinct : (machines.map Prod.fst).Nodup) {place name name' : Nat}
    (there : machines[place]? = some (name, agent))
    (others : ∀ (elsewhere : Nat) (machine : Nat × Agent Supervisor), elsewhere ≠ place →
      machines[elsewhere]? = some machine →
        ¬ own machine.2.context.id ∧ machine.2.body.timer ≠ timer)
    (its : agent.body.timer = timer) (inside : timer.toNat < timerCount)
    (mirrors : Mirrors timer own ledger desk ledger' desk') (same : desk.core = reactor.core)
    (same' : desk'.core = reactor'.core) {entry entry' : Entry}
    (alike : Same timer (ledger.latest timer) (ledger'.latest timer) entry entry')
    (taken : ledger.taken.getLast? = some entry) (taken' : ledger'.taken.getLast? = some entry')
    (offered : desk.offered = some entry.1)
    (fresh : ∀ machine ∈ machines, machine.1 ∉ desk.served) (fresh' : name' ∉ desk'.served)
    (granted : ∀ happening ∈ Reactor.offerHistory entry.1 machines reactor world,
      happening.refused = false)
    (prompt : Guarded Ledger.next Ledger.Prompt ledger
      (Reactor.offerHistory entry.1 machines reactor world))
    (near' : ∀ start ∈ entry'.2, ledger'.starts.length - (start + 1) < TimerBank.round)
    (world' : World) :
    let history' := Reactor.dispatchHistory name' entry'.1 agent reactor' world'
    (reactor.offer entry.1 (machines.map Prod.snd) world).1.1[place]? =
        some (reactor'.play (agent.dispatch entry'.1) world').1.1.2 ∧
      (∀ happening ∈ history', happening.refused = false) ∧
      ∃ served served', Mirrors timer own
        ((Reactor.offerHistory entry.1 machines reactor world).foldl Ledger.next ledger)
        { desk with
          core := (reactor.offer entry.1 (machines.map Prod.snd) world).1.2.core
          served }
        (history'.foldl Ledger.next ledger')
        { desk' with
          core := (reactor'.play (agent.dispatch entry'.1) world').1.2.core
          served := served' } := by
  induction machines generalizing place ledger desk reactor world with
  | nil => exact absurd there nofun
  | cons machine rest inductionHypothesis =>
    obtain ⟨first, head⟩ := machine
    obtain ⟨apart, distinct⟩ := List.nodup_cons.mp distinct
    obtain ⟨unserved, later⟩ := List.forall_mem_cons.mp fresh
    have parts : Reactor.offerHistory entry.1 ((first, head) :: rest) reactor world =
      Reactor.dispatchHistory first entry.1 head reactor world ++ _ := rfl
    rw [parts] at granted prompt
    rw [parts, List.foldl_append]
    obtain ⟨grantedNow, grantedLater⟩ := List.forall_mem_append.mp granted
    obtain ⟨promptNow, promptLater⟩ := (guarded_append _ _ _).mp prompt
    cases place with
    | zero =>
      -- The others come after the one that is watched.
      obtain ⟨rfl, rfl⟩ := Prod.mk.inj (Option.some.inj there)
      obtain ⟨after, granted', served, served', kept, dispatched⟩ :=
        mirrors_dispatch mirrors alike taken taken' same same' its inside unserved fresh' grantedNow
          promptNow near' world'
      have strangers : ∀ machine ∈ rest, Aside timer own entry.1 machine.2 := by
        intro machine member
        obtain ⟨elsewhere, found⟩ := List.mem_iff_getElem?.mp member
        obtain ⟨foreign, different⟩ := others (elsewhere + 1) machine nofun found
        exact .other foreign different
      have still : ∀ machine ∈ rest, machine.1 ∉ served := fun machine member =>
        kept _ (fun equal => apart (equal ▸ List.mem_map_of_mem member)) (later machine member)
      obtain ⟨-, served, onward⟩ := mirrors_offer_aside distinct strangers
        (reactor.play (head.dispatch entry.1) world).1.2
        (reactor.play (head.dispatch entry.1) world).2 dispatched rfl offered still
      exact ⟨congrArg some after.symm, granted', served, served', onward⟩
    | succ place =>
      obtain ⟨foreign, different⟩ := others 0 (first, head) nofun rfl
      obtain ⟨served, kept, dispatched, latest, still⟩ :=
        mirrors_dispatch_aside mirrors same offered unserved (.other foreign different) world
      have stillTaken := (congrArg List.getLast? still).trans taken
      have unserved : ∀ machine ∈ rest, machine.1 ∉ served := fun machine member =>
        kept _ (fun equal => apart (equal ▸ List.mem_map_of_mem member)) (later machine member)
      rw [← latest] at alike
      have away : ∀ (elsewhere : Nat) (machine : Nat × Agent Supervisor), elsewhere ≠ place →
          rest[elsewhere]? = some machine →
            ¬ own machine.2.context.id ∧ machine.2.body.timer ≠ timer :=
        fun elsewhere machine other found =>
          others (elsewhere + 1) machine (mt Nat.succ.inj other) found
      have onward := inductionHypothesis distinct there away dispatched rfl alike stillTaken offered
        unserved grantedLater promptLater
      exact onward

/-! ### Drains -/

/-- What tells a supervisor from others. -/
def badge (agent : Agent Supervisor) : UInt8 × UInt8 := (agent.context.id, agent.body.timer)

theorem badge_offer (event : Event) (agents : List (Agent Supervisor))
    (reactor : Reactor queueDepth traceDepth timerCount) (world : World) :
    (reactor.offer event agents world).1.1.map badge = agents.map badge := by
  induction agents generalizing reactor world with
  | nil => rfl
  | cons agent rest inductionHypothesis =>
    have after := (dispatch_plays 0 event agent reactor world).1
    obtain ⟨id, timer⟩ := reply_keeps reactor.core event agent
    have kept : badge (reactor.play (agent.dispatch event) world).1.1.2 = badge agent := by
      rw [after]
      exact Prod.ext id timer
    exact List.cons_eq_cons.mpr ⟨kept, inductionHypothesis
      (reactor.play (agent.dispatch event) world).1.2
      (reactor.play (agent.dispatch event) world).2⟩

/-- Supervisors that are known by the same badges as others are seated as they are. -/
theorem exists_of_badge {agents later : List (Agent Supervisor)}
    (same : later.map badge = agents.map badge) {seat : Nat} {agent : Agent Supervisor}
    (there : later[seat]? = some agent) :
    ∃ former, agents[seat]? = some former ∧ badge former = badge agent := by
  have found : (later.map badge)[seat]? = some (badge agent) := by
    rw [List.getElem?_map, there]
    rfl
  rw [same, List.getElem?_map] at found
  exact Option.map_eq_some_iff.mp found

/-- The supervisor that is watched has some ids and a timer to itself. -/
structure Seated (own : UInt8 → Prop) (place : Nat) (timer : UInt8)
    (agents : List (Agent Supervisor)) : Prop where
  mine : ∀ {seat : Nat} {agent : Agent Supervisor}, agents[seat]? = some agent →
    (own agent.context.id ↔ seat = place)
  apart : ∀ {seat : Nat} {agent : Agent Supervisor}, agents[seat]? = some agent →
    (agent.body.timer = timer ↔ seat = place)

theorem Seated.congr {place : Nat} {agents later : List (Agent Supervisor)}
    (seated : Seated own place timer agents) (same : later.map badge = agents.map badge) :
    Seated own place timer later := by
  constructor
  · intro seat agent there
    obtain ⟨former, found, equal⟩ := exists_of_badge same there
    rw [← (Prod.mk.inj equal).1]
    exact seated.mine found
  · intro seat agent there
    obtain ⟨former, found, equal⟩ := exists_of_badge same there
    rw [← (Prod.mk.inj equal).2]
    exact seated.apart found

theorem Seated.foreign {place seat : Nat} {agents : List (Agent Supervisor)}
    (seated : Seated own place timer agents) (there : agents[seat]? = some agent)
    (other : seat ≠ place) : ¬ own agent.context.id ∧ agent.body.timer ≠ timer :=
  ⟨mt (seated.mine there).mp other, mt (seated.apart there).mp other⟩

/-- What a supervisor asks for leaves the timeouts that wait as they are, and starts at most one
timer. -/
theorem entered_errands {config : Reactor.Config} {id : UInt8} {asked : Option Service}
    (asks : ∀ service ∈ asked, Asks config id timer service) (core : Core queueDepth timerCount)
    (ledger : Ledger) :
    let later := (core.errands asked).foldl Ledger.next ledger
    Ledger.entered later.waiting = Ledger.entered ledger.waiting ∧
      later.starts.length ≤ ledger.starts.length + 1 := by
  cases asked with
  | none => exact ⟨rfl, Nat.le_succ _⟩
  | some service =>
    rw [Core.errands, Option.elim_some]
    cases asks service rfl with
    | post =>
      rw [Core.happenings, List.foldl_cons, List.foldl_nil, Ledger.next]
      split
      · exact ⟨Ledger.entered_post [] ledger.waiting _ .front, Nat.le_succ _⟩
      · exact ⟨rfl, Nat.le_succ _⟩
    | rearm =>
      cases start : core.timers.start? timer (config.ticksIn patience) with
      | none =>
        simp only [Core.happenings, start]
        exact ⟨rfl, Nat.le_succ _⟩
      | some started =>
        obtain ⟨cookie, emissions, timers⟩ := started
        rw [Core.happenings_of_start? (ticksIn_patience_ne_zero _) start]
        exact ⟨rfl, Nat.le_of_eq List.length_append⟩

/-- What a supervisor does with an event leaves the timeouts that wait as they are, and starts at
most one timer. -/
theorem entered_dispatch (name : Nat) (event : Event) (agent : Agent Supervisor)
    (reactor : Reactor queueDepth traceDepth timerCount) (world : World) (ledger : Ledger) :
    let later := (Reactor.dispatchHistory name event agent reactor world).foldl Ledger.next ledger
    Ledger.entered later.waiting = Ledger.entered ledger.waiting ∧
      later.starts.length ≤ ledger.starts.length + 1 := by
  obtain ⟨-, -, history⟩ := dispatch_plays name event agent reactor world
  have marks (given : Bool) :
      let later := (if given then [.given name event] else []).foldl Ledger.next ledger
      later.waiting = ledger.waiting ∧ later.starts = ledger.starts := by
    cases given with
    | false => exact ⟨rfl, rfl⟩
    | true =>
      obtain ⟨waiting, -, starts, -⟩ := Ledger.next_given name event ledger
      exact ⟨waiting, starts⟩
  intro later
  have split : later = _ := congrArg (List.foldl Ledger.next ledger) history
  rw [List.foldl_append] at split
  obtain ⟨waiting, starts⟩ := marks (reactor.core.admits event agent)
  rw [split, ← waiting, ← starts]
  exact entered_errands (reply_asks reactor.core event agent) reactor.core _

/-- Of every timeout that waits the start is recent, and stays so while what waits is handed out to
one supervisor. -/
def Recent (ledger : Ledger) (waiting : List Event) : Prop :=
  ∀ start ∈ Ledger.entered ledger.waiting,
    ledger.starts.length + load 1 waiting ≤ start + 1 + 2 * 128

/-- The two runs between two events, each with its supervisors, the core of its reactor and its
books. The supervisor that is watched is the same in both. -/
structure Abreast (place : Nat) (timer : UInt8) (own : UInt8 → Prop)
    (agents : List (Agent Supervisor)) (core : Core queueDepth timerCount) (ledger : Ledger)
    (alone : List (Agent Supervisor)) (core' : Core queueDepth timerCount) (ledger' : Ledger) :
    Prop where
  watched : ∃ agent, agents[place]? = some agent ∧ alone = [agent]
  books : ∃ desk desk' : Desk queueDepth timerCount, desk.core = core ∧ desk'.core = core' ∧
    Mirrors timer own ledger desk ledger' desk'

/-- A machine that has emptied its queue has nothing more to be handed out. -/
theorem pendingHistory_of_nil (names : List Nat) (budget : Nat) (agents : List (Agent Supervisor))
    (empty : reactor.core.waiting = []) (world : World) :
    Reactor.pendingHistory names budget agents reactor world = [] := by
  cases budget with
  | zero => rfl
  | succ budget => rw [Reactor.pendingHistory, (Reactor.next?_eq_none_iff reactor).mpr empty]

/-- The supervisors with their places. -/
def row (agents : List (Agent Supervisor)) : List (Nat × Agent Supervisor) :=
  (List.range agents.length).zip agents

theorem row_names (agents : List (Agent Supervisor)) : ((row agents).map Prod.fst).Nodup := by
  rw [row, List.map_fst_zip (Nat.le_of_eq List.length_range)]
  exact List.nodup_range

theorem row_agents (agents : List (Agent Supervisor)) : (row agents).map Prod.snd = agents :=
  List.map_snd_zip (Nat.le_of_eq List.length_range.symm)

theorem getElem?_row {agents : List (Agent Supervisor)} {seat : Nat}
    {machine : Nat × Agent Supervisor} :
    (row agents)[seat]? = some machine ↔ machine.1 = seat ∧ agents[seat]? = some machine.2 := by
  rw [row, List.getElem?_zip_eq_some]
  constructor
  · rintro ⟨named, there⟩
    obtain ⟨inside, same⟩ := List.getElem?_eq_some_iff.mp named
    rw [List.getElem_range] at same
    exact ⟨same.symm, there⟩
  · rintro ⟨rfl, there⟩
    have inside := (List.getElem?_eq_some_iff.mp there).1
    exact ⟨List.getElem?_range inside, there⟩

/-- A recent start lies within a round. -/
theorem Recent.near {waiting : List Event} {entry : Entry} {entries : List Entry}
    (recent : Recent ledger waiting) (split : ledger.waiting = entry :: entries) :
    ∀ start ∈ entry.2, ledger.starts.length - (start + 1) < TimerBank.round := by
  intro start tagged
  have among : start ∈ Ledger.entered ledger.waiting := by
    rw [split]
    exact List.mem_filterMap.mpr ⟨entry, List.mem_cons_self, tagged⟩
  have bound := recent start among
  show ledger.starts.length - (start + 1) < 65535
  omega

theorem Recent.dispatch {entry : Entry} {entries : List Entry}
    {rest : Reactor queueDepth traceDepth timerCount}
    (recent : Recent ledger reactor.core.waiting) (split : ledger.waiting = entry :: entries)
    (next : reactor.next? = some (event, rest)) (world : World) :
    Recent
      ((Reactor.dispatchHistory 0 event agent rest world).foldl Ledger.next
        (ledger.next (.taken event)))
      (rest.offer event [agent] world).1.2.core.waiting := by
  obtain ⟨waits, left⟩ := Reactor.core_of_next? next
  have lighter : load 1 (rest.offer event [agent] world).1.2.core.waiting <
      load 1 reactor.core.waiting := by
    have offers := Reactor.offer_offers event [agent] rest world
    rw [left] at offers
    have lighter := load_lt_of_offers waits offers
    rwa [Reactor.length_offer] at lighter
  obtain ⟨kept, few⟩ := entered_dispatch 0 event agent rest world (ledger.next (.taken event))
  rw [Ledger.next_taken split] at kept few ⊢
  intro start among
  rw [kept] at among
  have bound := recent start (by
    rw [split, ← List.singleton_append, Ledger.entered_append]
    exact List.mem_append_right _ among)
  refine Nat.le_trans ?_ bound
  calc
    _ ≤ ledger.starts.length + 1 + load 1 (rest.offer event [agent] world).1.2.core.waiting :=
      Nat.add_le_add_right few _
    _ = ledger.starts.length + (load 1 (rest.offer event [agent] world).1.2.core.waiting + 1) := by
      rw [Nat.add_assoc, Nat.add_comm 1]
    _ ≤ _ := Nat.add_le_add_left (Nat.succ_le_of_lt lighter) _

/-- A desk whose core is that of a reactor takes the event that comes next. -/
theorem take_next {rest : Reactor queueDepth traceDepth timerCount}
    (same : desk.core = reactor.core) (next : reactor.next? = some (event, rest)) :
    desk.core.waiting = event :: rest.core.waiting ∧
      (desk.take event rest.core.waiting).core = rest.core := by
  obtain ⟨waits, left⟩ := Reactor.core_of_next? next
  constructor
  · rw [same, waits]
  · rw [left, ← same]
    rfl

/-- If an event waits by the books, it is the one that comes next. -/
theorem next_of_split {entry : Entry} {entries : List Entry} (balanced : ledger.Balanced desk)
    (same : desk.core = reactor.core) (split : ledger.waiting = entry :: entries) :
    ∃ rest, reactor.next? = some (entry.1, rest) := by
  have waiting := balanced.waiting
  rw [split, same] at waiting
  cases next : reactor.next? with
  | none => cases waiting.trans ((Reactor.next?_eq_none_iff reactor).mp next)
  | some pair =>
    obtain ⟨event, rest⟩ := pair
    obtain ⟨waits, -⟩ := Reactor.core_of_next? next
    obtain ⟨rfl, -⟩ := List.cons.inj (waiting.trans waits)
    exact ⟨rest, rfl⟩

section Steps

variable {place : Nat} {agents : List (Agent Supervisor)}
  {rest rest' : Reactor queueDepth traceDepth timerCount} {entry entry' : Entry}
  {entries entries' : List Entry} (seated : Seated own place timer agents)
  (mirrors : Mirrors timer own ledger desk ledger' desk')
  (same : desk.core = reactor.core) (there : agents[place]? = some agent)
  (split : ledger.waiting = entry :: entries)
  (next : reactor.next? = some (entry.1, rest))

include seated mirrors same there split next

/-- An event is handed out that concerns other supervisors only. -/
theorem abreast_pass (elsewhere : Elsewhere timer own entry.1)
    (reduces : Reduces timer own (ledger.latest timer) (ledger'.latest timer) entries
      ledger'.waiting) (world : World) :
    let offered := rest.offer entry.1 agents world
    Abreast place timer own offered.1.1 offered.1.2.core
      ((.taken entry.1 :: Reactor.offerHistory entry.1 (row agents) rest world).foldl Ledger.next
        ledger) [agent] desk'.core ledger' := by
  obtain ⟨following, core⟩ := take_next same next
  have took := mirrors.take_elsewhere split reduces following
  have aside : ∀ machine ∈ row agents, Aside timer own entry.1 machine.2 := by
    intro machine member
    obtain ⟨seat, found⟩ := List.mem_iff_getElem?.mp member
    have there := (getElem?_row.mp found).2
    by_cases its : seat = place
    · exact .passed ((seated.mine there).mpr its) ((seated.apart there).mpr its) elsewhere
    · obtain ⟨foreign, different⟩ := seated.foreign there its
      exact .other foreign different
  obtain ⟨stays, served, offered⟩ := mirrors_offer_aside (row_names agents) aside rest world took
    core rfl fun _ _ => List.not_mem_nil
  rw [row_agents] at stays offered
  refine ⟨⟨agent, ?_, rfl⟩, _, desk', rfl, rfl, offered⟩
  exact stays (getElem?_row.mpr ⟨rfl, there⟩) ((seated.mine there).mpr rfl)
    ((seated.apart there).mpr rfl)

/-- An event is handed out in both runs. -/
theorem abreast_share (same' : desk'.core = reactor'.core)
    (inside : timer.toNat < timerCount)
    (alike : Same timer (ledger.latest timer) (ledger'.latest timer) entry entry')
    (split' : ledger'.waiting = entry' :: entries')
    (next' : reactor'.next? = some (entry'.1, rest'))
    (reduces : Reduces timer own (ledger.latest timer) (ledger'.latest timer) entries
      entries')
    (recent : Recent ledger' reactor'.core.waiting) (world world' : World)
    (granted : ∀ happening ∈ Reactor.offerHistory entry.1 (row agents) rest world,
      happening.refused = false)
    (prompt : Guarded Ledger.next Ledger.Prompt (ledger.next (.taken entry.1))
      (Reactor.offerHistory entry.1 (row agents) rest world)) :
    let offered := rest.offer entry.1 agents world
    let offered' := rest'.offer entry'.1 [agent] world'
    let later' := (.taken entry'.1 :: Reactor.offerHistory entry'.1 [(0, agent)] rest' world').foldl
      Ledger.next ledger'
    (∀ happening ∈ Reactor.offerHistory entry'.1 [(0, agent)] rest' world',
        happening.refused = false) ∧
      Recent later' offered'.1.2.core.waiting ∧
      Abreast place timer own offered.1.1 offered.1.2.core
        ((.taken entry.1 :: Reactor.offerHistory entry.1 (row agents) rest world).foldl Ledger.next
          ledger) offered'.1.1 offered'.1.2.core later' := by
  obtain ⟨following, core⟩ := take_next same next
  obtain ⟨following', core'⟩ := take_next same' next'
  have took := mirrors.take split split' reduces following following'
  have nextLedger := Ledger.next_taken split entry.1
  have nextLedger' := Ledger.next_taken split' entry'.1
  have parts' : Reactor.offerHistory entry'.1 [(0, agent)] rest' world' =
      Reactor.dispatchHistory 0 entry'.1 agent rest' world' := List.append_nil _
  have others : ∀ (elsewhere : Nat) (machine : Nat × Agent Supervisor), elsewhere ≠ place →
      (row agents)[elsewhere]? = some machine →
        ¬ own machine.2.context.id ∧ machine.2.body.timer ≠ timer := by
    intro seat machine away found
    exact seated.foreign (getElem?_row.mp found).2 away
  -- Alone, few timers are started between two drains, so no timeout is taken too late.
  have near' : ∀ start ∈ entry'.2, (ledger'.next (.taken entry'.1)).starts.length - (start + 1) <
      TimerBank.round := by
    rw [nextLedger']
    exact recent.near split'
  have alike' : Same timer ((ledger.next (.taken entry.1)).latest timer)
      ((ledger'.next (.taken entry'.1)).latest timer) entry entry' := by
    rw [nextLedger, nextLedger']
    exact alike
  have taken := Ledger.getLast?_next_taken split entry.1
  have taken' := Ledger.getLast?_next_taken split' entry'.1
  obtain ⟨stays, granted', served, served', offered⟩ :=
    mirrors_offer (row_names agents) (getElem?_row.mpr ⟨rfl, there⟩) others
      ((seated.apart there).mpr rfl) inside took core core' alike' taken taken' rfl
      (fun _ _ => List.not_mem_nil) (List.not_mem_nil : 0 ∉ []) granted prompt near' world'
  rw [row_agents] at stays offered
  rw [parts']
  refine ⟨granted', ?_, ⟨_, stays, rfl⟩, _, _, rfl, rfl, offered⟩
  rw [List.foldl_cons]
  exact recent.dispatch split' next' world'

end Steps

/-- A drain of the queue in either run: alone, the supervisor empties it and nothing is refused, and
the two runs are in step again. -/
structure Drains (own : UInt8 → Prop) (place : Nat) (timer : UInt8) (names : List Nat)
    (budget budget' : Nat) (agents : List (Agent Supervisor))
    (reactor : Reactor queueDepth traceDepth timerCount) (world : World) (ledger : Ledger)
    (alone : List (Agent Supervisor)) (reactor' : Reactor queueDepth traceDepth timerCount)
    (world' : World) (ledger' : Ledger) : Prop where
  emptied : (reactor'.runPending budget' alone world').1.2.2.core.waiting = []
  granted : ∀ happening ∈ Reactor.pendingHistory [0] budget' alone reactor' world',
    happening.refused = false
  abreast : Abreast place timer own (reactor.runPending budget agents world).1.2.1
    (reactor.runPending budget agents world).1.2.2.core
    ((Reactor.pendingHistory names budget agents reactor world).foldl Ledger.next ledger)
    (reactor'.runPending budget' alone world').1.2.1
    (reactor'.runPending budget' alone world').1.2.2.core
    ((Reactor.pendingHistory [0] budget' alone reactor' world').foldl Ledger.next ledger')

section Drains

variable {place budget budget' : Nat} {names : List Nat} {agents alone : List (Agent Supervisor)}
  {rest rest' : Reactor queueDepth traceDepth timerCount} {event' : Event}

/-- A drain of an empty queue. -/
theorem Abreast.drains_over
    (abreast : Abreast place timer own agents reactor.core ledger alone reactor'.core ledger')
    (empty : reactor.core.waiting = []) :
    Drains own place timer names budget budget' agents reactor world ledger alone reactor' world'
      ledger' := by
  have empty' : reactor'.core.waiting = [] := by
    obtain ⟨-, desk, desk', same, same', mirrors⟩ := abreast
    have fewer := mirrors.length_le
    rw [same, same', empty] at fewer
    exact List.eq_nil_of_length_eq_zero (Nat.le_zero.mp fewer)
  constructor
  · rw [Reactor.runPending_of_nil _ _ empty']
    exact empty'
  · rw [pendingHistory_of_nil _ _ _ empty']
    exact List.forall_mem_nil _
  · rw [Reactor.runPending_of_nil _ _ empty, Reactor.runPending_of_nil _ _ empty',
      pendingHistory_of_nil _ _ _ empty, pendingHistory_of_nil _ _ _ empty']
    exact abreast

/-- A drain that begins with an event for others. -/
theorem Drains.pass (next : reactor.next? = some (event, rest))
    (later : Drains own place timer names budget budget' (rest.offer event agents world).1.1
      (rest.offer event agents world).1.2 (rest.offer event agents world).2
      ((.taken event :: Reactor.offerHistory event (names.zip agents) rest world).foldl Ledger.next
        ledger) alone reactor' world' ledger') :
    Drains own place timer names (budget + 1) budget' agents reactor world ledger alone reactor'
      world' ledger' := by
  refine ⟨later.emptied, later.granted, ?_⟩
  rw [Reactor.runPending_of_next? next, Reactor.pendingHistory_of_next? next, List.foldl_append]
  exact later.abreast

/-- A drain that begins with an event in both runs. -/
theorem Drains.share (next : reactor.next? = some (event, rest))
    (next' : reactor'.next? = some (event', rest'))
    (granted : ∀ happening ∈ Reactor.offerHistory event' ([0].zip alone) rest' world',
      happening.refused = false)
    (later : Drains own place timer names budget budget' (rest.offer event agents world).1.1
      (rest.offer event agents world).1.2 (rest.offer event agents world).2
      ((.taken event :: Reactor.offerHistory event (names.zip agents) rest world).foldl Ledger.next
        ledger) (rest'.offer event' alone world').1.1 (rest'.offer event' alone world').1.2
      (rest'.offer event' alone world').2
      ((.taken event' :: Reactor.offerHistory event' ([0].zip alone) rest' world').foldl Ledger.next
        ledger')) :
    Drains own place timer names (budget + 1) (budget' + 1) agents reactor world ledger alone
      reactor' world' ledger' := by
  constructor
  · rw [Reactor.runPending_of_next? next']
    exact later.emptied
  · rw [Reactor.pendingHistory_of_next? next']
    exact List.forall_mem_append.mpr ⟨List.forall_mem_cons.mpr ⟨rfl, granted⟩, later.granted⟩
  · rw [Reactor.runPending_of_next? next, Reactor.pendingHistory_of_next? next,
      Reactor.runPending_of_next? next', Reactor.pendingHistory_of_next? next', List.foldl_append,
      List.foldl_append]
    exact later.abreast

end Drains

/-- Drains that empty the queue of many supervisors empty that of one alone, and leave the two runs
in step. -/
theorem Abreast.drains {place budget budget' : Nat}
    (enough : budget ≤ budget')
    {names : List Nat} {agents alone : List (Agent Supervisor)}
    (named : names = List.range agents.length) (seated : Seated own place timer agents)
    (inside : timer.toNat < timerCount)
    (abreast : Abreast place timer own agents reactor.core ledger alone reactor'.core
      ledger')
    (recent : Recent ledger' reactor'.core.waiting)
    (emptied : (reactor.runPending budget agents world).1.2.2.core.waiting = [])
    (granted : ∀ happening ∈ Reactor.pendingHistory names budget agents reactor world,
      happening.refused = false)
    (prompt : Guarded Ledger.next Ledger.Prompt ledger
      (Reactor.pendingHistory names budget agents reactor world))
    (world' : World) :
    Drains own place timer names budget budget' agents reactor world ledger alone
      reactor' world' ledger' := by
  induction budget generalizing budget' agents alone reactor reactor' world world' ledger
    ledger' with
  | zero => exact abreast.drains_over emptied
  | succ budget inductionHypothesis =>
    cases next : reactor.next? with
    | none => exact abreast.drains_over ((Reactor.next?_eq_none_iff reactor).mp next)
    | some pair =>
      obtain ⟨event, rest⟩ := pair
      obtain ⟨waits, -⟩ := Reactor.core_of_next? next
      obtain ⟨⟨agent, there, rfl⟩, desk, desk', same, same', mirrors⟩ := abreast
      have waiting := mirrors.balanced.waiting
      rw [same, waits] at waiting
      obtain ⟨entry, entries, split, rfl, -⟩ := List.map_eq_cons_iff.mp waiting
      have seats := seated.congr (badge_offer entry.1 agents rest world)
      have renamed : names = List.range (rest.offer entry.1 agents world).1.1.length := by
        rw [Reactor.length_offer, named]
      have zipped : names.zip agents = row agents := by rw [named, row]
      rw [Reactor.runPending_of_next? next] at emptied
      rw [Reactor.pendingHistory_of_next? next, zipped] at granted prompt
      obtain ⟨grantedNow, grantedLater⟩ := List.forall_mem_append.mp granted
      obtain ⟨promptNow, promptLater⟩ := (guarded_append _ _ _).mp prompt
      have reduces := mirrors.waiting
      rw [split] at reduces
      generalize split' : ledger'.waiting = waiting' at reduces
      cases reduces with
      | elsewhere aside reduces =>
        -- The run alone waits, so the budget that it has left is still enough.
        rw [← split'] at reduces
        have passed := abreast_pass seated mirrors same there split next aside reduces world
        rw [same'] at passed
        have onward := inductionHypothesis (Nat.le_of_succ_le enough) renamed seats passed recent
          emptied grantedLater promptLater world'
        rw [← zipped] at onward
        exact onward.pass next
      | @same _ entry' _ entries' alike reduces =>
        obtain ⟨rest', next'⟩ := next_of_split mirrors.balanced' same' split'
        cases budget' with
        | zero => cases enough
        | succ budget' =>
          obtain ⟨granted', recent, shared⟩ := abreast_share seated mirrors same there split next
            same' inside alike split' next' reduces recent world world'
            (List.forall_mem_cons.mp grantedNow).2 promptNow.2
          have onward := inductionHypothesis (Nat.le_of_succ_le_succ enough) renamed seats shared
            recent emptied grantedLater promptLater (rest'.offer entry'.1 [agent] world').2
          rw [← zipped] at onward
          exact onward.share next next' granted'

end Machines

end BusNode.Supervisor
