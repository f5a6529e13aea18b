/-
This file proves that a supervisor never gives up the master too early. Whatever is published at
either end of the queue, whichever other supervisors work on the same reactor and take part in a
drain, and however the ticks fall between the drains: when a supervisor goes from taking the master
to be there to taking it for lost, as many ticks have passed as the master may be silent, since the
last request that it was offered and since it took the master to be there.

A timeout of its timer may wait while a request is handled, ahead of it or behind it. Neither can
mislead a supervisor, because it starts its timer again before it is offered anything else that was
waiting.
-/
import BusNode.Proofs.Supervisor.Shelter

namespace BusNode.Supervisor

open Reactor (Act Core Course Desk Ensemble Entry Happening Incident Ledger Move Session)

variable {queueDepth traceDepth : Depth} {timerCount : Nat}
variable {World : Type} [Clock World] [Journal World]

/-! ### One event -/

/-- What others do between two points leaves a timer alone. -/
structure Undisturbed (timer : UInt8) (ledger later : Ledger) (desk last : Desk queueDepth timerCount) :
    Prop where
  balanced : later.Balanced last
  grown : Ledger.Grown timer ledger later
  timer : last.core.timers.timer? timer = desk.core.timers.timer? timer
  config : last.core.config = desk.core.config

/-- Other supervisors that are offered an event leave a timer alone, and have other timers. -/
theorem undisturbed_offer {timer : UInt8} {event : Event} {names : List Nat} (distinct : names.Nodup)
    {agents : List (Agent Supervisor)} (each : names.length = agents.length)
    (apart : ∀ other ∈ agents, other.body.timer ≠ timer) {ledger : Ledger}
    {desk : Desk queueDepth timerCount} (balanced : ledger.Balanced desk)
    (offered : desk.offered = some event) (fresh : ∀ name ∈ names, name ∉ desk.served)
    (reactor : Reactor queueDepth traceDepth timerCount) (world : World)
    (same : desk.core = reactor.core) {history : List Happening}
    (happens : Reactor.offerHistory event (names.zip agents) reactor world = history)
    (honest : ∀ happening ∈ history, happening.forged = false) :
    (∀ other ∈ (reactor.offer event agents world).1.1, other.body.timer ≠ timer) ∧
      ∃ served, (∀ other, other ∉ names → other ∉ desk.served → other ∉ served) ∧
        Undisturbed timer ledger (history.foldl Ledger.next ledger) desk
          { desk with core := (reactor.offer event agents world).1.2.core, served } := by
  have named : (names.zip agents).map Prod.fst = names := List.map_fst_zip (Nat.le_of_eq each)
  have members : (names.zip agents).map Prod.snd = agents :=
    List.map_snd_zip (Nat.le_of_eq each.symm)
  have brings : ∀ service : Service, service.Within (· ≠ timer) →
      ∀ (core : Core queueDepth timerCount), ∀ happening ∈ core.happenings service,
        happening.Spares timer ∧ happening.takes = false :=
    fun _ within => Core.spares_happenings within
  obtain ⟨traits, spares⟩ := (abides (· ≠ timer)).offer brings
    (fun machine => show (Happening.given machine event).Spares timer ∧ _ from ⟨trivial, rfl⟩)
    (names.zip agents) (fun machine member => apart _ (List.of_mem_zip member).2) reactor world
  obtain ⟨served, kept, course⟩ := Course.offer (names.zip agents) (named.symm ▸ distinct) desk offered
    (fun machine member => fresh _ (List.of_mem_zip member).1) reactor world same
  rw [members] at traits course
  rw [happens] at spares course
  rw [named] at kept
  refine ⟨fun other member => ?_, served, kept, ?_⟩
  · have among : other.body.timer ∈ agents.map fun agent => agent.body.timer :=
      traits ▸ List.mem_map_of_mem member
    obtain ⟨before, there, equal⟩ := List.mem_map.mp among
    exact equal ▸ apart before there
  · exact ⟨(balanced.course course honest).2, Ledger.grown_of_spares spares ledger,
      course.timer?_of_spares fun happening member => (spares happening member).1, course.config⟩

/-- A supervisor never changes its timer. -/
theorem timer_play {timer : UInt8} {script : Script (Bool × Agent Supervisor)}
    (keeps : script.Keeps (Service.Within fun _ => True) fun outcome => outcome.2.body.timer = timer)
    (reactor : Reactor queueDepth traceDepth timerCount) (world : World) :
    (reactor.play script world).1.1.2.body.timer = timer :=
  (Reactor.keeps_play keeps (fun _ _ _ _ _ => trivial) reactor world).1

/-- A supervisor among others, which all have other timers. -/
inductive Among (before after : List Nat) (agent : Agent Supervisor) :
    List (Agent Supervisor) → Prop where
  | intro {first second : List (Agent Supervisor)} (early : before.length = first.length)
      (late : after.length = second.length)
      (apart : ∀ other ∈ first ++ second, other.body.timer ≠ agent.body.timer) :
      Among before after agent (first ++ agent :: second)

theorem Among.getElem? {before after : List Nat} {agent : Agent Supervisor}
    {agents : List (Agent Supervisor)} (among : Among before after agent agents) :
    agents[before.length]? = some agent := by
  obtain @⟨first, second, early, -, -⟩ := among
  rw [early, List.getElem?_append_right (Nat.le_refl _), Nat.sub_self]
  rfl

/-- A supervisor is in one of its two states, and safe while it takes the master to be there. -/
structure Watching (limit passed : Nat) (agent : Agent Supervisor) (ledger : Ledger)
    (bank : TimerBank timerCount) : Prop where
  known : agent.context.state = running ∨ agent.context.state = lost
  safe : agent.context.state = running → Safe agent.context.id agent.body.timer limit passed ledger
    ledger.waiting bank

/-- A supervisor works among others, with a timer that there is, while the books balance. -/
structure Works (before after : List Nat) (limit : Nat) (agent : Agent Supervisor)
    (agents : List (Agent Supervisor)) (ledger : Ledger) (desk : Desk queueDepth timerCount) :
    Prop where
  among : Among before after agent agents
  inside : agent.body.timer.toNat < timerCount
  balanced : ledger.Balanced desk
  limited : (desk.core.config.ticksIn patience).toNat = limit

/-- What becomes of a supervisor among others, and of the books, with what happens to it. -/
structure Served (before after : List Nat) (limit passed : Nat) (next : Agent Supervisor)
    (agents : List (Agent Supervisor)) (incidents : List Incident) (later : Ledger)
    (last : Desk queueDepth timerCount) : Prop where
  works : Works before after limit next agents later last
  patient : Guarded silence (Patient limit) passed incidents
  watching : Watching limit (incidents.foldl silence passed) next later last.core.timers

theorem Served.trans {before after : List Nat} {limit passed : Nat} {middle next : Agent Supervisor}
    {agents others : List (Agent Supervisor)} {first rest : List Incident} {ledger later : Ledger}
    {desk last : Desk queueDepth timerCount}
    (served : Served before after limit passed middle agents first ledger desk)
    (onward : Served before after limit (first.foldl silence passed) next others rest later last) :
    Served before after limit passed next others (first ++ rest) later last :=
  ⟨onward.works, (guarded_append _ _ _).mpr ⟨served.patient, onward.patient⟩,
    List.foldl_append ▸ onward.watching⟩

/-- A supervisor that is safe with an event before it is so when the event was offered to all. -/
theorem served_offer {before after : List Nat} {watched limit passed : Nat}
    (distinct : (before ++ watched :: after).Nodup) {agent : Agent Supervisor}
    {agents : List (Agent Supervisor)} {event : Event} {ledger later : Ledger}
    {desk : Desk queueDepth timerCount} (works : Works before after limit agent agents ledger desk)
    (offered : desk.offered = some event) (fresh : desk.served = []) {entry : Entry}
    (taken : ledger.taken.getLast? = some entry)
    {reactor : Reactor queueDepth traceDepth timerCount} {world : World}
    (same : desk.core = reactor.core)
    (known : agent.context.state = running ∨ agent.context.state = lost)
    (safe : agent.context.state = running → Safe agent.context.id agent.body.timer limit passed
      ledger (entry :: ledger.waiting) desk.core.timers)
    (fair : Fair ledger (Reactor.offerHistory event ((before ++ watched :: after).zip agents) reactor
      world))
    (books : (Reactor.offerHistory event ((before ++ watched :: after).zip agents) reactor
      world).foldl Ledger.next ledger = later) :
    ∃ next last, last.core = (reactor.offer event agents world).1.2.core ∧
      Served before after limit passed next (reactor.offer event agents world).1.1
        (Reactor.offerIncidents watched event ((before ++ watched :: after).zip agents) reactor world)
        later last := by
  obtain ⟨among, inside, balanced, limited⟩ := works
  obtain @⟨first, second, early, late, apart⟩ := among
  obtain ⟨apartFirst, apartSecond⟩ := List.forall_mem_append.mp apart
  obtain ⟨distinctFirst, distinctRest, separate⟩ := List.nodup_append.mp distinct
  obtain ⟨absent, distinctSecond⟩ := List.nodup_cons.mp distinctRest
  have elsewhere : watched ∉ before := fun member =>
    separate watched member watched List.mem_cons_self rfl
  let middle := reactor.offer event first world
  let turn := middle.1.2.play (agent.dispatch event) middle.2
  have history : Reactor.offerHistory event
      ((before ++ watched :: after).zip (first ++ agent :: second)) reactor world =
        Reactor.offerHistory event (before.zip first) reactor world ++
          (Reactor.dispatchHistory watched event agent middle.1.2 middle.2 ++
            Reactor.offerHistory event (after.zip second) turn.1.2 turn.2) :=
    Reactor.offerHistory_of_row early agent event reactor world
  have whole : reactor.offer event (first ++ agent :: second) world =
      ((middle.1.1 ++ turn.1.1.2 :: (turn.1.2.offer event second turn.2).1.1,
        (turn.1.2.offer event second turn.2).1.2), (turn.1.2.offer event second turn.2).2) :=
    Reactor.offer_append event first (agent :: second) reactor world
  rw [history, fair_append, fair_append] at fair
  rw [history, List.foldl_append, List.foldl_append] at books
  obtain ⟨fairFirst, fairTurn, fairSecond⟩ := fair
  -- The supervisors before this one leave its timer alone.
  obtain ⟨othersFirst, served, kept, quiet⟩ := undisturbed_offer distinctFirst early apartFirst balanced
    offered (fun name _ => fresh ▸ List.not_mem_nil) reactor world same rfl fairFirst.honest
  let opened : Desk queueDepth timerCount := { desk with core := middle.1.2.core, served }
  have still : opened.offered = some event := offered
  have unserved : ∀ name, name ∉ before → name ∉ opened.served := fun name absent =>
    kept name absent (fresh ▸ List.not_mem_nil)
  have stillTaken := (congrArg List.getLast? quiet.grown.taken).trans taken
  have stillSafe (here : agent.context.state = running) : Safe agent.context.id agent.body.timer limit
      passed _ ([entry] ++ _) opened.core.timers := Safe.grown quiet.grown quiet.timer (safe here)
  -- It answers the event itself.
  obtain ⟨served', kept', course⟩ := Course.dispatch still (unserved watched elsewhere) agent middle.1.2
    middle.2 rfl
  have turned : Offered watched event agent middle.1.2 middle.2 _ _ opened _ :=
    { inside, balanced := quiet.balanced, start := rfl, offered := still, course, ended := rfl,
      books := rfl, fair := fairTurn }
  have answers := turned.answers known stillTaken (quiet.config ▸ limited) stillSafe
  have timer : turn.1.1.2.body.timer = agent.body.timer :=
    timer_play (dispatch_keeps fun _ _ => trivial) middle.1.2 middle.2
  -- The supervisors behind it leave its timer alone again.
  let closed : Desk queueDepth timerCount := { opened with core := turn.1.2.core, served := served' }
  have unserved' : ∀ name ∈ after, name ∉ closed.served := fun name member =>
    kept' name (fun same => absent (same ▸ member))
      (unserved name fun early => separate name early name (List.mem_cons_of_mem _ member) rfl)
  have balances : Ledger.Balanced _ closed := turned.balances
  obtain ⟨othersSecond, served'', -, calm⟩ := undisturbed_offer distinctSecond late apartSecond balances
    still unserved' turn.1.2 turn.2 rfl rfl fairSecond.honest
  have config : closed.core.config = desk.core.config := course.config.trans quiet.config
  have among : Among before after turn.1.1.2
      (middle.1.1 ++ turn.1.1.2 :: (turn.1.2.offer event second turn.2).1.1) := by
    refine .intro (early.trans (Reactor.length_offer event first reactor world).symm)
      (late.trans (Reactor.length_offer event second turn.1.2 turn.2).symm) ?_
    rw [timer]
    exact List.forall_mem_append.mpr ⟨othersFirst, othersSecond⟩
  rw [Reactor.offerIncidents_of_row distinct early, whole]
  refine ⟨turn.1.1.2, _, rfl, ⟨among, timer ▸ inside, books ▸ calm.balanced, ?_⟩,
    ⟨answers.patient, trivial⟩, answers.known, fun here => ?_⟩
  · rw [calm.config, config]
    exact limited
  · rw [timer, ← books]
    have safe : Safe _ _ limit _ _ ([] ++ _) closed.core.timers := answers.safe here
    exact safe.grown calm.grown calm.timer

/-! ### Drains -/

theorem served_pending {before after : List Nat} {watched limit passed : Nat}
    (distinct : (before ++ watched :: after).Nodup) {agent : Agent Supervisor}
    {agents : List (Agent Supervisor)} {ledger later : Ledger} {desk : Desk queueDepth timerCount}
    (works : Works before after limit agent agents ledger desk) (budget : Nat)
    {reactor : Reactor queueDepth traceDepth timerCount} {world : World}
    (same : desk.core = reactor.core)
    (watching : Watching limit passed agent ledger desk.core.timers)
    (fair : Fair ledger
      (Reactor.pendingHistory (before ++ watched :: after) budget agents reactor world))
    (books : (Reactor.pendingHistory (before ++ watched :: after) budget agents reactor world).foldl
      Ledger.next ledger = later) :
    ∃ next last, last.core = (reactor.runPending budget agents world).1.2.2.core ∧
      Served before after limit passed next (reactor.runPending budget agents world).1.2.1
        (Reactor.pendingIncidents watched (before ++ watched :: after) budget agents reactor world)
        later last := by
  induction budget generalizing agents agent ledger desk reactor world passed with
  | zero =>
    obtain rfl : ledger = later := books
    exact ⟨agent, desk, same, works, trivial, watching⟩
  | succ budget inductionHypothesis =>
    rw [Reactor.pendingHistory] at fair books
    rw [Reactor.pendingIncidents, Reactor.runPending]
    cases next : reactor.next? with
    | none =>
      rw [next] at books
      obtain rfl : ledger = later := books
      exact ⟨agent, desk, same, works, trivial, watching⟩
    | some pair =>
      obtain ⟨event, rest⟩ := pair
      rw [next] at fair books
      obtain ⟨waits, left⟩ := Reactor.core_of_next? next
      have following : desk.core.waiting = event :: rest.core.waiting := same ▸ waits
      have core : (desk.take event rest.core.waiting).core = rest.core := by
        rw [left, ← same]
        rfl
      obtain ⟨entry, entries, split, -, -⟩ :=
        List.map_eq_cons_iff.mp (works.balanced.waiting.trans following)
      have moved := Ledger.next_taken split event
      have taken : (ledger.next (.taken event)).taken.getLast? = some entry := by
        rw [moved]
        exact List.getLast?_concat
      have ahead : ledger.waiting = entry :: (ledger.next (.taken event)).waiting := by
        rw [moved]
        exact split
      have safe (here : agent.context.state = running) : Safe agent.context.id agent.body.timer limit
          passed (ledger.next (.taken event)) (entry :: (ledger.next (.taken event)).waiting)
          desk.core.timers := by
        have same : (ledger.next (.taken event)).latest agent.body.timer =
          ledger.latest agent.body.timer := rfl
        rw [← ahead]
        exact (watching.safe here).congr same
      obtain ⟨now, onward⟩ := fair_append.mp fair
      have books := List.foldl_append.symm.trans books
      have takes : Works before after limit agent agents (ledger.next (.taken event))
          (desk.take event rest.core.waiting) :=
        ⟨works.among, works.inside, works.balanced.take following, works.limited⟩
      obtain ⟨middle, between, reached, served⟩ :=
        served_offer distinct takes rfl rfl taken core watching.known safe now.tail rfl
      obtain ⟨final, last, ended, rested⟩ :=
        inductionHypothesis served.works reached served.watching onward books
      exact ⟨final, last, ended, served.trans rested⟩

/-! ### Moves -/

section Moves

variable (session : Session Supervisor World queueDepth traceDepth timerCount)

/-- No move changes the timer of a supervisor. -/
theorem timers_move (move : Move World) :
    (session.move move).agents.map (fun agent => agent.body.timer) =
      session.agents.map fun agent => agent.body.timer := by
  cases move with
  | publish | startTimer | stopTimer | tick | meanwhile => rfl
  | drain budget =>
    have each : (List.replicate session.agents.length 0).length = session.agents.length :=
      List.length_replicate
    have brings : ∀ service : Service, service.Within (fun _ => True) →
        ∀ (core : Core queueDepth timerCount), ∀ happening ∈ core.happenings service, True :=
      fun _ _ _ _ _ => trivial
    exact ((abides fun _ => True).pending brings (fun _ _ => trivial) (fun _ => trivial) budget each
      (fun _ _ => trivial) session.reactor session.world).1
  | launch place id =>
    rw [Session.move]
    cases there : session.agents[place]? with
    | none => rfl
    | some agent =>
      have keeps : (agent.start id).Keeps (Service.Within fun _ => True) _ := start_keeps id
      have kept := (Reactor.keeps_play keeps (fun _ _ _ _ _ => trivial) session.reactor
        session.world).1
      obtain ⟨inside, same⟩ := List.getElem?_eq_some_iff.mp there
      have whole : session.agents.set place agent = session.agents :=
        same ▸ List.set_getElem_self inside
      have back := congrArg (List.map fun agent : Agent Supervisor => agent.body.timer) whole
      rw [List.map_set, ← kept, ← List.map_set] at back
      exact back

/-- No move but a tick disturbs a timer that belongs to none of the machines that take part. -/
theorem spares_move {timer : UInt8} {names : List Nat} (each : names.length = session.agents.length)
    {move : Move World} (ticks : move ≠ .tick) (untouched : move.touches timer = false)
    (apart : move.drains = true → ∀ agent ∈ session.agents, agent.body.timer ≠ timer) :
    ∀ happening ∈ session.happenings names move, happening.Spares timer := by
  have brings : ∀ service : Service, service.Within (· ≠ timer) →
      ∀ (core : Core queueDepth timerCount), ∀ happening ∈ core.happenings service,
        happening.Spares timer :=
    fun _ within core happening member => (Core.spares_happenings within core happening member).1
  cases move with
  | tick => exact absurd rfl ticks
  | publish place event => exact brings (.publish place event) trivial session.core
  | startTimer index time =>
    exact brings (.startTimer index time) (of_decide_eq_false untouched) session.core
  | stopTimer index => exact brings (.stopTimer index) (of_decide_eq_false untouched) session.core
  | drain budget =>
    exact ((abides (· ≠ timer)).pending brings (fun _ _ => trivial) (fun _ => trivial) budget each
      (apart rfl) session.reactor session.world).2
  | launch place id =>
    rw [Session.happenings]
    cases session.agents[place]? with
    | none => exact List.forall_mem_nil _
    | some agent =>
      have keeps : (agent.start id).Keeps (Service.Within (· ≠ timer)) _ := start_keeps id
      exact (Reactor.keeps_play keeps brings session.reactor session.world).2
  | meanwhile change => exact List.forall_mem_nil _

end Moves

/-! ### Acts -/

section Acts

variable {start ensemble : Ensemble Supervisor World queueDepth traceDepth timerCount}
  {ledger : Ledger} {act : Act World} {watched limit passed : Nat}

/-- The books are kept while supervisors work on a reactor. -/
structure Kept (start : Ensemble Supervisor World queueDepth traceDepth timerCount) (ledger : Ledger)
    (ensemble : Ensemble Supervisor World queueDepth traceDepth timerCount) : Prop where
  balanced : ∃ desk : Desk queueDepth timerCount,
    desk.core = ensemble.reactor.core ∧ ledger.Balanced desk
  config : ensemble.reactor.core.config = start.reactor.core.config
  timers : ∀ name, (ensemble.agents name).body.timer = (start.agents name).body.timer

/-- The books are kept with an act, and what happens is a course. -/
theorem Kept.onward (kept : Kept start ledger ensemble) (act : Act World)
    (honest : ∀ happening ∈ (ensemble.lineup act.members).happenings act.members act.move,
      happening.forged = false) :
    Kept start
        (((ensemble.lineup act.members).happenings act.members act.move).foldl Ledger.next ledger)
        (ensemble.act act) ∧
      ∃ desk last : Desk queueDepth timerCount, desk.core = ensemble.reactor.core ∧
        last.core = (ensemble.act act).reactor.core ∧ ledger.Balanced desk ∧
          Course desk ((ensemble.lineup act.members).happenings act.members act.move) last := by
  obtain ⟨desk, same, balanced⟩ := kept.balanced
  have each : act.members.length = (ensemble.lineup act.members).agents.length :=
    (List.length_map _).symm
  obtain ⟨last, course, ended⟩ :=
    Course.move act.distinct (ensemble.lineup act.members) each same act.move
  refine ⟨⟨⟨last, ended, (balanced.course course honest).2⟩, ?_, fun name => ?_⟩, desk, last, same,
    ended, balanced, course⟩
  · have config := course.config
    rw [ended, same] at config
    exact config.trans kept.config
  · exact (Ensemble.regroup_trait (timers_move (ensemble.lineup act.members) act.move) name).trans
      (kept.timers name)

/-- Between two drains a supervisor is in one of its two states, and rests while it takes the master
to be there. -/
structure Attends (watched limit passed : Nat) (ledger : Ledger)
    (ensemble : Ensemble Supervisor World queueDepth traceDepth timerCount) : Prop where
  known : (ensemble.agents watched).context.state = running ∨
    (ensemble.agents watched).context.state = lost
  rested : (ensemble.agents watched).context.state = running →
    Rested (ensemble.agents watched).body.timer limit passed ledger ledger.waiting
      ensemble.reactor.core.timers

/-- What happens to a supervisor with an act, and what it leads to. -/
def Goes (watched limit passed : Nat) (ledger : Ledger)
    (ensemble : Ensemble Supervisor World queueDepth traceDepth timerCount) (act : Act World) : Prop :=
  Guarded silence (Patient limit) passed
      ((ensemble.lineup act.members).incidents watched act.members act.move) ∧
    Attends watched limit
      (((ensemble.lineup act.members).incidents watched act.members act.move).foldl silence passed)
      (((ensemble.lineup act.members).happenings act.members act.move).foldl Ledger.next ledger)
      (ensemble.act act)

namespace Attends

/-- A supervisor that has nothing to do with an act goes on as it was. -/
theorem idle (attends : Attends watched limit passed ledger ensemble)
    (kept : Kept start ledger ensemble) (ticks : act.move ≠ .tick)
    (absent : act.move.drains = true → watched ∉ act.members)
    (other : act.launched? ≠ some watched)
    (spares : ∀ happening ∈ (ensemble.lineup act.members).happenings act.members act.move,
      happening.Spares (ensemble.agents watched).body.timer)
    (honest : ∀ happening ∈ (ensemble.lineup act.members).happenings act.members act.move,
      happening.forged = false) : Goes watched limit passed ledger ensemble act := by
  obtain ⟨-, desk, last, same, ended, balanced, course⟩ := kept.onward act honest
  have agent := ensemble.agents_act absent other
  have timer := course.timer?_of_spares spares
  rw [same, ended] at timer
  obtain ⟨latest, waiting⟩ := Ledger.waiting_of_spares spares ledger
  rw [Goes, Reactor.incidents_of_idle _ ticks absent other]
  refine ⟨trivial, agent ▸ attends.known, fun here => ?_⟩
  rw [agent] at here ⊢
  exact (attends.rested here).kept latest waiting timer

/-- A supervisor that rests does so after a tick. -/
theorem tick (attends : Attends watched limit passed ledger ensemble)
    (kept : Kept start ledger ensemble) (ticks : act.move = .tick)
    (granted : ∀ happening ∈ (ensemble.lineup act.members).happenings act.members act.move,
      happening.refused = false) : Goes watched limit passed ledger ensemble act := by
  obtain ⟨desk, same, balanced⟩ := kept.balanced
  have agent : (ensemble.act act).agents watched = ensemble.agents watched := by
    refine ensemble.agents_act (fun drains => ?_) ?_
    · rw [ticks] at drains
      cases drains
    · rw [Act.launched?, ticks]
      intro launched
      cases launched
  have core : (ensemble.act act).reactor.core = desk.core.tick := by
    rw [same, Ensemble.act, ticks]
    exact Session.core_tick (ensemble.lineup act.members)
  have happenings : (ensemble.lineup act.members).happenings act.members act.move =
      desk.core.tickHappenings := by
    rw [same, ticks]
    rfl
  rw [happenings] at granted
  rw [Goes, happenings, ticks]
  refine ⟨⟨trivial, trivial⟩, agent ▸ attends.known, fun here => ?_⟩
  rw [agent] at here ⊢
  have rested := attends.rested here
  rw [← same] at rested
  rw [core]
  exact rested.tick balanced granted

/-- A supervisor that takes part in a drain rests when the queue is empty. -/
theorem drain (attends : Attends watched limit passed ledger ensemble)
    (kept : Kept start ledger ensemble) {budget : Nat} (drains : act.move = .drain budget)
    (member : watched ∈ act.members)
    (inside : (ensemble.agents watched).body.timer.toNat < timerCount)
    (limited : (ensemble.reactor.core.config.ticksIn patience).toNat = limit)
    (apart : ∀ name ∈ act.members, name ≠ watched →
      (ensemble.agents name).body.timer ≠ (ensemble.agents watched).body.timer)
    (emptied : (ensemble.act act).reactor.queue.toList = [])
    (fair : Fair ledger ((ensemble.lineup act.members).happenings act.members act.move)) :
    Goes watched limit passed ledger ensemble act := by
  obtain ⟨desk, same, balanced⟩ := kept.balanced
  obtain ⟨before, after, split⟩ := List.append_of_mem member
  obtain ⟨members, distinct, move⟩ := act
  obtain rfl : move = .drain budget := drains
  obtain rfl : members = before ++ watched :: after := split
  have among : Among before after (ensemble.agents watched)
      (ensemble.lineup (before ++ watched :: after)).agents := by
    rw [Ensemble.lineup, List.map_append, List.map_cons]
    refine .intro (List.length_map _).symm (List.length_map _).symm fun other among => ?_
    rw [← List.map_append] at among
    obtain ⟨name, there, rfl⟩ := List.mem_map.mp among
    have others := List.nodup_cons.mp (List.nodup_middle.mp distinct)
    refine apart name ?_ fun own => others.1 (own ▸ there)
    exact (List.mem_append.mp there).elim (List.mem_append_left _) fun behind =>
      List.mem_append_right _ (List.mem_cons_of_mem _ behind)
  have watching : Watching limit passed (ensemble.agents watched) ledger desk.core.timers :=
    ⟨attends.known, fun here => .rested (same ▸ attends.rested here)⟩
  have works : Works before after limit (ensemble.agents watched)
      (ensemble.lineup (before ++ watched :: after)).agents ledger desk :=
    ⟨among, inside, balanced, same ▸ limited⟩
  obtain ⟨next, last, reached, served⟩ := served_pending distinct works budget same watching fair rfl
  have named : (before ++ watched :: after)[before.length]? = some watched := by
    rw [List.getElem?_append_right (Nat.le_refl _), Nat.sub_self]
    rfl
  have agent : (ensemble.act ⟨before ++ watched :: after, distinct, .drain budget⟩).agents watched =
      next := Ensemble.regroup_of_getElem? distinct named served.works.among.getElem?
  have core : last.core =
      (ensemble.act ⟨before ++ watched :: after, distinct, .drain budget⟩).reactor.core := reached
  have empty := List.map_eq_nil_iff.mp
    (served.works.balanced.waiting.trans ((congrArg Core.waiting core).trans emptied))
  refine ⟨served.patient, agent ▸ served.watching.known, fun here => ?_⟩
  rw [agent] at here ⊢
  have safe := served.watching.safe here
  rw [empty] at safe
  rw [← core]
  exact empty ▸ safe.rested_of_nil

end Attends

/-- An act leaves the timer of a supervisor alone, and the others that take part in it have other
timers. -/
structure Respects (start : Ensemble Supervisor World queueDepth traceDepth timerCount)
    (watched : Nat) (act : Act World) : Prop where
  untouched : act.move.touches (start.agents watched).body.timer = false
  apart : ∀ name ∈ act.members, name ≠ watched →
    (start.agents name).body.timer ≠ (start.agents watched).body.timer

theorem Respects.spares (respects : Respects start watched act) (kept : Kept start ledger ensemble)
    (ticks : act.move ≠ .tick) (absent : act.move.drains = true → watched ∉ act.members) :
    ∀ happening ∈ (ensemble.lineup act.members).happenings act.members act.move,
      happening.Spares (start.agents watched).body.timer := by
  have each : act.members.length = (ensemble.lineup act.members).agents.length :=
    (List.length_map _).symm
  refine spares_move _ each ticks respects.untouched fun drains agent member => ?_
  obtain ⟨name, there, rfl⟩ := List.mem_map.mp member
  rw [kept.timers]
  exact respects.apart name there fun own => absent drains (own ▸ there)

/-- Every act leads a supervisor on that is at work. -/
theorem Attends.onward (attends : Attends watched limit passed ledger ensemble)
    (kept : Kept start ledger ensemble)
    (inside : (start.agents watched).body.timer.toNat < timerCount)
    (limited : (start.reactor.core.config.ticksIn patience).toNat = limit)
    (respects : Respects start watched act) (other : act.launched? ≠ some watched)
    (empties : ensemble.Empties act)
    (fair : Fair ledger ((ensemble.lineup act.members).happenings act.members act.move)) :
    Goes watched limit passed ledger ensemble act := by
  by_cases ticks : act.move = .tick
  · exact attends.tick kept ticks fair.granted
  by_cases served : act.move.drains = true ∧ watched ∈ act.members
  · obtain ⟨drains, member⟩ := served
    have budget : ∃ budget, act.move = .drain budget := by
      cases same : act.move with
      | drain budget => exact ⟨budget, rfl⟩
      | publish | startTimer | stopTimer | tick | launch | meanwhile =>
        rw [same] at drains
        cases drains
    obtain ⟨budget, same⟩ := budget
    refine attends.drain kept same member ?_ ?_ (fun name there different => ?_) (empties drains) fair
    · rw [kept.timers]
      exact inside
    · rw [kept.config]
      exact limited
    · rw [kept.timers, kept.timers]
      exact respects.apart name there different
  · have absent : act.move.drains = true → watched ∉ act.members := not_and.mp served
    have spares := respects.spares kept ticks absent
    rw [← kept.timers watched] at spares
    exact attends.idle kept ticks absent other spares fair.honest

/-- A supervisor is patient in every run of acts. -/
theorem Attends.run {acts : List (Act World)} (attends : Attends watched limit passed ledger ensemble)
    (kept : Kept start ledger ensemble)
    (inside : (start.agents watched).body.timer.toNat < timerCount)
    (limited : (start.reactor.core.config.ticksIn patience).toNat = limit)
    (respects : ∀ act ∈ acts, Respects start watched act)
    (once : ∀ act ∈ acts, act.launched? ≠ some watched)
    (empties : Guarded Ensemble.act Ensemble.Empties ensemble acts)
    (fair : Fair ledger (ensemble.history acts)) :
    Guarded silence (Patient limit) passed (ensemble.chronicle watched acts) := by
  induction acts generalizing ensemble ledger passed with
  | nil => trivial
  | cons act rest inductionHypothesis =>
    obtain ⟨respects, others⟩ := List.forall_mem_cons.mp respects
    obtain ⟨first, once⟩ := List.forall_mem_cons.mp once
    obtain ⟨now, later⟩ := fair_append.mp fair
    obtain ⟨patient, attends⟩ :=
      attends.onward kept inside limited respects first empties.1 now
    exact (guarded_append _ _ _).mpr ⟨patient, inductionHypothesis attends
      (kept.onward act now.honest).1 others once empties.2 later⟩

/-! ### Before a supervisor is at work -/

/-- No start of a timer comes from an act that its supervisor takes no part in. -/
theorem Respects.latest (respects : Respects start watched act) (kept : Kept start ledger ensemble)
    (absent : watched ∉ act.members) :
    (((ensemble.lineup act.members).happenings act.members act.move).foldl Ledger.next ledger).latest
        (start.agents watched).body.timer =
      ledger.latest (start.agents watched).body.timer := by
  by_cases ticks : act.move = .tick
  · rw [ticks]
    exact congrFun (Ledger.behind_of_rings _ _ ledger).1 _
  · exact (Ledger.waiting_of_spares (respects.spares kept ticks fun _ => absent) ledger).1

/-- The timer of a supervisor is not started before the supervisor is at work. -/
theorem Kept.run_unset {acts : List (Act World)} (kept : Kept start ledger ensemble)
    (unset : ledger.latest (start.agents watched).body.timer = none)
    (respects : ∀ act ∈ acts, Respects start watched act)
    (absent : ∀ act ∈ acts, watched ∉ act.members)
    (honest : ∀ happening ∈ ensemble.history acts, happening.forged = false) :
    Kept start ((ensemble.history acts).foldl Ledger.next ledger) (ensemble.run acts) ∧
      ((ensemble.history acts).foldl Ledger.next ledger).latest
        (start.agents watched).body.timer = none ∧
      ∀ incident ∈ ensemble.chronicle watched acts, incident = .ticked := by
  induction acts generalizing ensemble ledger with
  | nil => exact ⟨kept, unset, List.forall_mem_nil _⟩
  | cons act rest inductionHypothesis =>
    obtain ⟨respects, others⟩ := List.forall_mem_cons.mp respects
    obtain ⟨first, absent⟩ := List.forall_mem_cons.mp absent
    obtain ⟨now, later⟩ := List.forall_mem_append.mp honest
    obtain ⟨kept', unset', ticks⟩ := inductionHypothesis (kept.onward act now).1
      ((respects.latest kept first).trans unset) others absent later
    rw [Ensemble.history, List.foldl_append]
    exact ⟨kept', unset', List.forall_mem_append.mpr
      ⟨Reactor.incidents_of_not_mem _ first, ticks⟩⟩

/-- A supervisor that is put into its first state rests, because its timer was never started. -/
theorem Kept.launch (kept : Kept start ledger ensemble)
    (unset : ledger.latest (start.agents watched).body.timer = none)
    (respects : Respects start watched act) (launched : act.launched? = some watched)
    (honest : ∀ happening ∈ (ensemble.lineup act.members).happenings act.members act.move,
      happening.forged = false) (limit passed : Nat) :
    (ensemble.lineup act.members).incidents watched act.members act.move = [.launched] ∧
      Goes watched limit passed ledger ensemble act := by
  have launches : ∃ place id, act.move = .launch place id ∧ act.members[place]? = some watched := by
    rw [Act.launched?] at launched
    split at launched
    · exact ⟨_, _, ‹_›, launched⟩
    · cases launched
  obtain ⟨place, id, same, named⟩ := launches
  have there : (ensemble.lineup act.members).agents[place]? = some (ensemble.agents watched) := by
    rw [Ensemble.lineup, List.getElem?_map, named]
    rfl
  have incidents : (ensemble.lineup act.members).incidents watched act.members act.move =
      [.launched] := by
    rw [same]
    exact if_pos named
  obtain ⟨agents, -⟩ := (ensemble.lineup act.members).move_launch there (start_only id)
  rw [← same] at agents
  have agent : (ensemble.act act).agents watched =
      { ensemble.agents watched with context := { state := running, id } } := by
    refine Ensemble.regroup_of_getElem? act.distinct named ?_
    rw [agents, List.getElem?_set_self (List.getElem?_eq_some_iff.mp there).1]
  have ticks : act.move ≠ .tick := by
    rw [same]
    intro ticks
    cases ticks
  have drains : act.move.drains = true → watched ∉ act.members := by
    rw [same]
    intro drains
    cases drains
  have unset' := (Ledger.waiting_of_spares (respects.spares kept ticks drains) ledger).1.trans unset
  obtain ⟨desk, core, balanced⟩ := (kept.onward act honest).1.balanced
  refine ⟨incidents, ?_⟩
  rw [Goes, incidents]
  refine ⟨⟨trivial, trivial⟩, .inl (congrArg (fun agent => agent.context.state) agent), fun _ => ?_⟩
  rw [(kept.onward act honest).1.timers, ← core]
  exact rested_of_unset balanced unset' limit _ _

end Acts

/-! ### Runs -/

/-- A sign of the master ends the silence. -/
theorem silence_of_hears {incident : Incident} (heard : hears incident = true) (passed : Nat) :
    silence passed incident = 0 := by
  cases incident with
  | ticked => cases heard
  | launched => rfl
  | offered event before after => rw [silence, if_pos heard]

/-- The silence is at most as long as there were ticks. -/
theorem silence_le (passed : Nat) (incidents : List Incident) :
    incidents.foldl silence passed ≤ passed + incidents.count .ticked := by
  induction incidents generalizing passed with
  | nil => exact Nat.le_refl passed
  | cons incident rest inductionHypothesis =>
    have later := inductionHypothesis (silence passed incident)
    have now : silence passed incident + rest.count .ticked ≤
        passed + (incident :: rest).count .ticked := by
      cases incident with
      | ticked => simp [silence, Nat.add_assoc, Nat.add_comm 1]
      | launched => simp [silence]
      | offered event before after =>
        rw [silence, List.count_cons_of_ne (by simp)]
        split <;> omega
    exact Nat.le_trans later now

/-- After a sign of the master the silence is at most as long as there were ticks since. -/
theorem silence_since {sign : Incident} (heard : hears sign = true) (passed : Nat)
    (early between : List Incident) :
    (early ++ sign :: between).foldl silence passed ≤ between.count .ticked := by
  rw [List.foldl_append, List.foldl_cons, silence_of_hears heard]
  exact Nat.zero_add (between.count .ticked) ▸ silence_le 0 between

/-- A supervisor is put to work once, with a timer that there is and that nobody else touches. It
takes part in nothing before. Every drain empties the queue, nothing that is published is refused,
nobody but the timers publishes timeouts, and no timeout comes as late as a round of starts. -/
structure Duty (watched : Nat) (start : Ensemble Supervisor World queueDepth traceDepth timerCount)
    (before : List (Act World)) (first : Act World) (later : List (Act World)) : Prop where
  inside : (start.agents watched).body.timer.toNat < timerCount
  absent : ∀ act ∈ before, watched ∉ act.members
  launched : first.launched? = some watched
  once : ∀ act ∈ later, act.launched? ≠ some watched
  respects : ∀ act ∈ before ++ first :: later, Respects start watched act
  empties : Guarded Ensemble.act Ensemble.Empties start (before ++ first :: later)
  fair : Fair {} (start.history (before ++ first :: later))

/-- A supervisor on duty is put to work, and is patient from then on. -/
theorem Duty.patient {config : Reactor.Config} {agents : Nat → Agent Supervisor} {world : World}
    {start : Ensemble Supervisor World queueDepth traceDepth timerCount}
    (blank : start = .idle config agents world) {watched : Nat} {before later : List (Act World)}
    {first : Act World} (duty : Duty watched start before first later) :
    ∃ ticks work, start.chronicle watched (before ++ first :: later) = ticks ++ .launched :: work ∧
      (∀ incident ∈ ticks, incident = .ticked) ∧
      Guarded silence (Patient (config.ticksIn patience).toNat) 0 work := by
  have core : start.reactor.core = { waiting := [], timers := .idle, config } := by
    rw [blank]
    exact congrArg (Core.mk · .idle config) EventQueue.toList_empty
  have kept : Kept start {} start :=
    ⟨⟨_, core.symm, Ledger.Balanced.initial config⟩, rfl, fun _ => rfl⟩
  have limited : (start.reactor.core.config.ticksIn patience).toNat =
      (config.ticksIn patience).toNat := by rw [core]
  have fair := duty.fair
  rw [Ensemble.history_append, fair_append] at fair
  obtain ⟨early, late⟩ := fair
  obtain ⟨now, onward⟩ := fair_append.mp late
  obtain ⟨respectsEarly, respectsLate⟩ := List.forall_mem_append.mp duty.respects
  obtain ⟨respectsFirst, respects⟩ := List.forall_mem_cons.mp respectsLate
  obtain ⟨-, emptiesLate⟩ := (guarded_append _ _ _).mp duty.empties
  obtain ⟨kept, unset, ticks⟩ := kept.run_unset rfl respectsEarly duty.absent early.honest
  obtain ⟨launch, -, attends⟩ := kept.launch unset respectsFirst duty.launched now.honest
    (config.ticksIn patience).toNat 0
  have works := attends.run (kept.onward first now.honest).1 duty.inside limited respects duty.once
    emptiesLate.2 onward
  rw [launch] at works
  refine ⟨_, _, ?_, ticks, works⟩
  rw [Ensemble.chronicle_append, Ensemble.chronicle, launch]
  rfl

/-- A supervisor never gives up the master too early. When it goes from taking the master to be there
to taking it for lost, it was put to work before, and since then, since every request that it was
offered and since every time that it took the master to be there, at least as many ticks have passed
as the master may be silent. -/
theorem never_gives_up_early {config : Reactor.Config} {agents : Nat → Agent Supervisor}
    {world : World} {start : Ensemble Supervisor World queueDepth traceDepth timerCount}
    (blank : start = .idle config agents world) {watched : Nat} {before later : List (Act World)}
    {first : Act World} (duty : Duty watched start before first later)
    {past rest : List Incident} {event : Event}
    (split : start.chronicle watched (before ++ first :: later) =
      past ++ .offered event running lost :: rest) :
    (∃ sign ∈ past, hears sign = true) ∧
      ∀ {early between : List Incident} {sign : Incident}, past = early ++ sign :: between →
        hears sign = true → (config.ticksIn patience).toNat ≤ between.count .ticked := by
  obtain ⟨ticks, work, whole, quiet, patient⟩ := duty.patient blank
  have placed : ∃ worked, past = ticks ++ .launched :: worked ∧
      work = worked ++ .offered event running lost :: rest := by
    rcases List.append_eq_append_iff.mp (whole.symm.trans split) with
      ⟨middle, same, behind⟩ | ⟨middle, same, behind⟩
    · rcases List.cons_eq_append_iff.mp behind with ⟨-, next⟩ | ⟨worked, rfl, same'⟩
      · cases (List.cons.inj next).1
      · exact ⟨worked, same, same'⟩
    · rcases List.cons_eq_append_iff.mp behind with ⟨-, next⟩ | ⟨others, rfl, -⟩
      · cases (List.cons.inj next).1
      · cases quiet _ (same ▸ List.mem_append_right past List.mem_cons_self)
  obtain ⟨worked, rfl, rfl⟩ := placed
  have due : (config.ticksIn patience).toNat ≤ worked.foldl silence 0 :=
    patient.allowed_at rfl rfl rfl
  have same : (ticks ++ .launched :: worked).foldl silence 0 = worked.foldl silence 0 := by
    rw [List.foldl_append, List.foldl_cons, silence_of_hears rfl]
  refine ⟨⟨.launched, List.mem_append_right _ List.mem_cons_self, rfl⟩, fun parts heard => ?_⟩
  rw [← same, parts] at due
  exact Nat.le_trans due (silence_since heard 0 _ _)

/-! ### A request that gets ahead of a timeout -/

namespace Overtaken

/-- Two supervisors on a node of the usual size, on the first timer and on the second one. -/
def supervisors :
    Ensemble Supervisor (Sim.Bench Sim.Wire) Node.queueDepth Node.traceDepth Node.timerCount :=
  .idle {} (fun name => { body := { timer := if name = 5 then 0 else 1 } }) { line := {} }

/-- A tick, while no machine is at work. -/
def tick : Act (Sim.Bench Sim.Wire) := { distinct := List.nodup_nil, move := .tick }

/-- The second supervisor is put to work and starts its timer. -/
def actsBeforeLaunch : List (Act (Sim.Bench Sim.Wire)) :=
  [{ members := [3], move := .launch 0 2 }, { members := [3], move := .drain 8 }, tick]

/-- The first supervisor is put to work. -/
def launch : Act (Sim.Bench Sim.Wire) := { members := [5], move := .launch 0 1 }

/-- Both timers run out, and a request gets ahead of their timeouts. Then both run out again. -/
def actsAfterLaunch : List (Act (Sim.Bench Sim.Wire)) :=
  [{ members := [3, 5], move := .drain 8 }] ++ List.replicate 40 tick ++
    [{ distinct := List.nodup_nil, move := .publish .front masterComms },
      { members := [5, 3], move := .drain 8 }] ++
    List.replicate 40 tick ++ [{ members := [3, 5], move := .drain 8 }]

/-- What happens to the first supervisor up to the request. -/
def incidentsBeforeRequest : List Incident :=
  [.ticked, .launched, .offered (.toSelf 1) running running] ++ List.replicate 40 .ticked

/-- What it is offered with the request, and the silence after it. -/
def incidentsAfterRequest : List Incident :=
  [.offered (.toSelf 2) running running, .offered (.toSelf 1) running running,
    .offered (.timeout 1 1) running running, .offered (.timeout 0 2) running running] ++
  List.replicate 40 .ticked

theorem patient_when_overtaken :
    Duty 5 supervisors actsBeforeLaunch launch actsAfterLaunch ∧
      supervisors.chronicle 5 (actsBeforeLaunch ++ launch :: actsAfterLaunch) =
        (incidentsBeforeRequest ++ .offered masterComms running running :: incidentsAfterRequest) ++
          .offered (.timeout 0 4) running lost :: [.offered (.timeout 1 3) lost lost] ∧
      (Reactor.Config.ticksIn patience {}).toNat ≤ incidentsAfterRequest.count .ticked ∧
      incidentsAfterRequest.count .ticked = 40 := by
  have respects : ∀ act ∈ actsBeforeLaunch ++ launch :: actsAfterLaunch,
      act.move.touches 0 = false ∧ ∀ name ∈ act.members, name ≠ 5 →
        (supervisors.agents name).body.timer ≠ 0 := by
    decide +kernel
  have duty : Duty 5 supervisors actsBeforeLaunch launch actsAfterLaunch :=
    { inside := by decide
      absent := by decide
      launched := rfl
      once := by decide +kernel
      respects := fun act member => ⟨(respects act member).1, (respects act member).2⟩
      empties := by decide +kernel
      fair := ⟨by decide +kernel, by decide +kernel, by decide +kernel⟩ }
  have split : supervisors.chronicle 5 (actsBeforeLaunch ++ launch :: actsAfterLaunch) =
      (incidentsBeforeRequest ++ .offered masterComms running running :: incidentsAfterRequest) ++
        .offered (.timeout 0 4) running lost :: [.offered (.timeout 1 3) lost lost] := by
    decide +kernel
  exact ⟨duty, split, (never_gives_up_early rfl duty split).2 rfl rfl, by decide⟩

end Overtaken

end BusNode.Supervisor
