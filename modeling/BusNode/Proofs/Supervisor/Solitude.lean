/-
This file proves that supervisors that share a node do not disturb each other. A run of many of them
is set beside the run of the same schedule with one of them alone, whose moves are the same but that
nobody else is put into the first state. After every move that one is in the same state in both, its
light was set to the same patterns, and its timer has the same ticks left.

For this it must not share its id with another whenever events are handed out. Ids of their own are
not enough, since a supervisor goes by zero until it is put into its first state: if events are
handed out before that, it can take what another has sent to itself.

Only of the run of many is it assumed that nothing is refused, that its drains empty the queue and
that no timeout comes as late as a round of starts. For the run alone these things follow.
-/
import BusNode.Proofs.Supervisor.Naming

namespace BusNode.Supervisor

open Reactor (Core Desk Happening Ledger Move Session)
open Reactor.Ledger (Mirrors)

variable {queueDepth traceDepth : Depth} {timerCount : Nat} {World : Type}

/-! ### Schedules -/

/-- What a schedule is to the supervisor at one place: the others are not there to be put into their
first state. -/
def alone (place : Nat) (moves : List (Move World)) : List (Move World) :=
  moves.filterMap fun move =>
    match move with
    | .launch other id => if other = place then some (.launch 0 id) else none
    | move => some move

theorem alone_cons (place : Nat) (move : Move World) (rest : List (Move World)) :
    alone place (move :: rest) = alone place [move] ++ alone place rest := by
  rw [← List.singleton_append, alone, List.filterMap_append]
  rfl

/-! ### Two runs from their start -/

/-- Supervisors on a reactor in which nothing has happened. -/
def gather (config : Reactor.Config) (agents : List (Agent Supervisor)) (world : World) :
    Session Supervisor World queueDepth traceDepth timerCount :=
  { agents, reactor := .idle config, world }

/-- The supervisor that is watched is in step in a run of many and in its own, between two moves. -/
structure Together (own : UInt8 → Prop) (place : Nat) (timer : UInt8)
    (session : Session Supervisor World queueDepth traceDepth timerCount) (ledger : Ledger)
    (session' : Session Supervisor World queueDepth traceDepth timerCount) (ledger' : Ledger) :
    Prop where
  abreast : Abreast place timer own session.agents session.core ledger session'.agents
    session'.core ledger'
  apart : ∀ {seat : Nat} {other : UInt8},
    (session.agents.map fun agent => agent.body.timer)[seat]? = some other →
      (other = timer ↔ seat = place)
  last : ∀ start ∈ Ledger.entered ledger'.waiting, start + 1 = ledger'.starts.length

theorem Together.initial {own : UInt8 → Prop} {place : Nat} {config : Reactor.Config}
    {agents : List (Agent Supervisor)} {agent : Agent Supervisor}
    (there : agents[place]? = some agent)
    (apart : (agents.map fun agent => agent.body.timer).Nodup) (world world' : World) :
    Together own place agent.body.timer
      (gather config agents world : Session Supervisor World queueDepth traceDepth timerCount) {}
      (gather config [agent] world' : Session Supervisor World queueDepth traceDepth timerCount)
      {} := by
  let desk : Desk queueDepth timerCount := { core := { waiting := [], timers := .idle, config } }
  have blank (agents : List (Agent Supervisor)) (world : World) :
      desk.core = (gather config agents world :
        Session Supervisor World queueDepth traceDepth timerCount).core :=
    congrArg (Core.mk · .idle config) EventQueue.toList_empty.symm
  have balanced : Ledger.Balanced {} desk := .initial config
  refine ⟨⟨⟨agent, there, rfl⟩, desk, desk, blank agents world, blank [agent] world', ?_⟩,
    fun found => ?_, fun _ => nofun⟩
  · exact ⟨balanced, balanced, rfl, rfl, .nil, fun _ _ => rfl, fun _ => nofun⟩
  · have timer : (agents.map fun agent => agent.body.timer)[place]? = some agent.body.timer := by
      rw [List.getElem?_map, there]
      rfl
    constructor
    · rintro rfl
      have inside := (List.getElem?_eq_some_iff.mp found).1
      exact (List.getElem?_inj inside apart).mp (found.trans timer.symm)
    · rintro rfl
      exact Option.some.inj (found.symm.trans timer)

variable [Clock World] [Journal World]

/-! ### Sharing a node -/

/-- Events are handed out until none waits. -/
def Empties (session : Session Supervisor World queueDepth traceDepth timerCount) :
    Move World → Prop
  | .drain budget => (session.move (.drain budget)).reactor.queue.toList = []
  | .publish .. | .startTimer .. | .stopTimer .. | .tick | .launch .. | .meanwhile _ => True

instance (session : Session Supervisor World queueDepth traceDepth timerCount) :
    (move : Move World) → Decidable (Empties session move)
  | .drain _ => inferInstanceAs (Decidable (_ = _))
  | .publish .. | .startTimer .. | .stopTimer .. | .tick | .launch .. | .meanwhile _ =>
    .isTrue trivial

/-- Supervisors share a node: each is given a timer and an id of its own, every drain empties the
queue, nothing that is published is refused, and no timeout comes as late as a round of starts. -/
structure Shares (ids : List UInt8)
    (session : Session Supervisor World queueDepth traceDepth timerCount)
    (moves : List (Move World)) : Prop where
  inside : ∀ agent ∈ session.agents, agent.body.timer.toNat < timerCount
  apart : (session.agents.map fun agent => agent.body.timer).Nodup
  distinct : ids.Nodup
  length : ids.length = session.agents.length
  /-- Nobody has begun. -/
  blank : ∀ agent ∈ session.agents, agent.context.id = 0
  fits : ∀ move ∈ moves, Fits ids move
  empties : Guarded Session.move Empties session moves
  granted : ∀ happening ∈ session.history (List.range session.agents.length) moves,
    happening.refused = false
  prompt : Guarded Ledger.next Ledger.Prompt {}
    (session.history (List.range session.agents.length) moves)

/-! ### Moves -/

/-- A move in the run of many and what is left of it in the run of one: there nothing is refused
either, a drain empties the queue as well, and the two are in step again. -/
structure Onward (own : UInt8 → Prop) (place : Nat) (timer : UInt8)
    (session : Session Supervisor World queueDepth traceDepth timerCount) (ledger : Ledger)
    (session' : Session Supervisor World queueDepth traceDepth timerCount) (ledger' : Ledger)
    (move : Move World) : Prop where
  granted : ∀ happening ∈ session'.history [0] (alone place [move]), happening.refused = false
  empties : Guarded Session.move Empties session' (alone place [move])
  together : Together own place timer (session.move move)
    ((session.happenings (List.range session.agents.length) move).foldl Ledger.next ledger)
    (session'.run (alone place [move]))
    ((session'.history [0] (alone place [move])).foldl Ledger.next ledger')

variable {own : UInt8 → Prop} {place : Nat} {timer : UInt8}
  {session session' : Session Supervisor World queueDepth traceDepth timerCount}
  {ledger ledger' : Ledger} {move move' : Move World} {ids : List UInt8}

theorem Onward.of_both (same : alone place [move] = [move'])
    (granted : ∀ happening ∈ session'.happenings [0] move', happening.refused = false)
    (empties : Empties session' move')
    (together : Together own place timer (session.move move)
      ((session.happenings (List.range session.agents.length) move).foldl Ledger.next ledger)
      (session'.move move') ((session'.happenings [0] move').foldl Ledger.next ledger')) :
    Onward own place timer session ledger session' ledger' move := by
  have history : session'.history [0] [move'] = session'.happenings [0] move' :=
    List.append_nil _
  constructor
  · rw [same, history]
    exact granted
  · rw [same]
    exact ⟨empties, trivial⟩
  · rw [same, history]
    exact together

/-- A move that only the run of many makes. -/
theorem Onward.of_one (none : alone place [move] = [])
    (together : Together own place timer (session.move move)
      ((session.happenings (List.range session.agents.length) move).foldl Ledger.next ledger)
      session' ledger') :
    Onward own place timer session ledger session' ledger' move := by
  constructor
  · rw [none]
    exact List.forall_mem_nil _
  · rw [none]
    trivial
  · rw [none]
    exact together

/-- A supervisor that is put into its first state takes a place in the queue. -/
theorem happenings_launch {seat : Nat} {agent : Agent Supervisor}
    (there : session.agents[seat]? = some agent) (names : List Nat) (id : UInt8) :
    session.happenings names (.launch seat id) =
      [.published .front (.toSelf id) (session.core.publish .front (.toSelf id)).1] := by
  rw [Session.happenings, there]
  exact ((start_does id agent session.core).play session.reactor session.world rfl).2.2

namespace Together

variable (together : Together own place timer session ledger session' ledger')

include together

theorem publish (end' : QueueEnd) {event : Event} (other : event.id ≠ Event.timerId)
    (granted : ∀ happening ∈ session.happenings (List.range session.agents.length)
      (.publish end' event), happening.refused = false) :
    Onward own place timer session ledger session' ledger' (.publish end' event) := by
  obtain ⟨⟨watched, desk, desk', same, same', mirrors⟩, apart, last⟩ := together
  have queued : (desk.core.publish end' event).1 = true := by
    rw [same]
    exact Happening.queued_of_granted (granted _ List.mem_cons_self)
  obtain ⟨queued', published⟩ := mirrors.publish end' other queued
  have marks {session : Session Supervisor World queueDepth traceDepth timerCount}
      (names : List Nat) (queued : (session.core.publish end' event).1 = true) :
      session.happenings names (.publish end' event) = [.published end' event true] := by
    rw [← queued]
    rfl
  rw [same] at queued published
  rw [same'] at queued' published
  refine .of_both rfl ?_ trivial ⟨?_, apart, ?_⟩
  · rw [marks _ queued']
    exact List.forall_mem_singleton.mpr rfl
  · rw [marks _ queued, marks _ queued', Session.core_publish, Session.core_publish]
    exact ⟨watched, _, _, rfl, rfl, published⟩
  · rw [marks _ queued', List.foldl_cons, List.foldl_nil, Ledger.next]
    split
    · exact fun start among => last start (Ledger.entered_post [] _ event end' ▸ among)
    · exact last

theorem tick (granted : ∀ happening ∈ session.happenings (List.range session.agents.length) .tick,
      happening.refused = false) :
    Onward own place timer session ledger session' ledger' .tick := by
  obtain ⟨⟨watched, desk, desk', same, same', mirrors⟩, apart, last⟩ := together
  obtain ⟨granted', ticked⟩ := mirrors.tick (same ▸ granted)
  rw [same] at ticked
  rw [same'] at ticked granted'
  refine .of_both rfl granted' trivial ⟨?_, apart, ?_⟩
  · rw [Session.core_tick, Session.core_tick]
    exact ⟨watched, _, _, rfl, rfl, ticked⟩
  · show ∀ start ∈ Ledger.entered (session'.core.tickHappenings.foldl Ledger.next ledger').waiting,
      start + 1 = (session'.core.tickHappenings.foldl Ledger.next ledger').starts.length
    rw [Mirrors.tick_foldl granted']
    intro start among
    rw [Ledger.entered_append] at among
    rcases List.mem_append.mp among with before | now
    · exact last start before
    · obtain ⟨event, member⟩ := Ledger.mem_entered.mp now
      obtain ⟨event, -, same⟩ := List.mem_map.mp member
      have newest := (Prod.mk.inj same).2
      by_cases own : event.p8 = timer
      · exact mirrors.newest start (own ▸ newest)
      · cases (mirrors.unused event.p8 own).symm.trans newest

theorem meanwhile (change : World → World) :
    Onward own place timer session ledger session' ledger' (.meanwhile change) :=
  .of_both rfl (List.forall_mem_nil _) trivial ⟨together.abreast, together.apart, together.last⟩

theorem drain {budget : Nat} (inside : timer.toNat < timerCount)
    (keeps : Keeps own place session.agents) (empties : Empties session (.drain budget))
    (granted : ∀ happening ∈ session.happenings (List.range session.agents.length) (.drain budget),
      happening.refused = false)
    (prompt : Guarded Ledger.next Ledger.Prompt ledger
      (session.happenings (List.range session.agents.length) (.drain budget))) :
    Onward own place timer session ledger session' ledger' (.drain budget) := by
  obtain ⟨abreast, apart, last⟩ := together
  have seated : Seated own place timer session.agents := by
    refine ⟨keeps _ _, fun {seat agent} there => apart ?_⟩
    rw [List.getElem?_map, there]
    rfl
  -- Between two moves every timeout that waits belongs to the last start, and few events wait.
  have recent : Recent ledger' session'.core.waiting := by
    intro start among
    have few : session'.core.waiting.length ≤ 128 :=
      Nat.le_trans ((EventQueue.length_toList session'.reactor.queue).symm ▸
        session'.reactor.queue.length_le) queueDepth.size_le
    have light := load_le 1 session'.core.waiting
    rw [← last start among]
    omega
  obtain ⟨emptied', granted', settled⟩ := abreast.drains (Nat.le_refl budget) rfl seated inside
    recent empties granted prompt session'.world
  refine .of_both rfl granted' emptied' ⟨settled, ?_, ?_⟩
  · rw [timers_move]
    exact apart
  · obtain ⟨-, desk, desk', -, same', mirrors⟩ := settled
    have none :
        ((session'.happenings [0] (.drain budget)).foldl Ledger.next ledger').waiting = [] := by
      have waiting := mirrors.balanced'.waiting
      rw [same', emptied'] at waiting
      exact List.map_eq_nil_iff.mp waiting
    rw [none]
    exact fun _ => nofun

/-- The supervisor that is watched is put into its first state. -/
theorem launch (id : UInt8)
    (granted : ∀ happening ∈ session.happenings (List.range session.agents.length)
      (.launch place id), happening.refused = false) :
    Onward own place timer session ledger session' ledger' (.launch place id) := by
  obtain ⟨⟨⟨agent, there, single⟩, desk, desk', same, same', mirrors⟩, apart, last⟩ := together
  have there' : session'.agents[0]? = some agent := by
    rw [single]
    rfl
  have queued : (desk.core.publish .front (.toSelf id)).1 = true := by
    rw [happenings_launch there] at granted
    rw [same]
    exact Happening.queued_of_granted (granted _ List.mem_cons_self)
  obtain ⟨queued', published⟩ := mirrors.publish .front (Event.id_toSelf_ne id) queued
  rw [same] at queued published
  rw [same'] at queued' published
  obtain ⟨agents, core⟩ := session.move_launch there (start_only id)
  obtain ⟨agents', core'⟩ := session'.move_launch there' (start_only id)
  have marks' := happenings_launch there' [0] id
  rw [queued'] at marks'
  have its : alone place [(.launch place id : Move World)] = [.launch 0 id] := by simp [alone]
  refine .of_both its ?_ trivial ⟨?_, ?_, ?_⟩
  · rw [marks']
    exact List.forall_mem_singleton.mpr rfl
  · rw [happenings_launch there, marks', queued, agents, core, agents', core', single]
    refine ⟨⟨_, List.getElem?_set_self (List.getElem?_eq_some_iff.mp there).1, rfl⟩, _, _, rfl, rfl,
      published⟩
  · rw [timers_move]
    exact apart
  · rw [marks']
    exact fun start among => last start (Ledger.entered_post [] _ (.toSelf id) .front ▸ among)

/-- Another supervisor is put into its first state. -/
theorem launch_other {seat : Nat} (other : seat ≠ place) {id : UInt8} (foreign : ¬ own id) :
    Onward own place timer session ledger session' ledger' (.launch seat id) := by
  obtain ⟨⟨⟨agent, watched, single⟩, desk, desk', same, same', mirrors⟩, apart, last⟩ := together
  have published := mirrors.publish_elsewhere foreign
  rw [same] at published
  refine .of_one (by simp [alone, other]) ⟨?_, ?_, last⟩
  · cases there : session.agents[seat]? with
    | none =>
      rw [Session.happenings, Session.move, there]
      exact ⟨⟨agent, watched, single⟩, desk, desk', same, same', mirrors⟩
    | some launched =>
      obtain ⟨agents, core⟩ := session.move_launch there (start_only id)
      rw [happenings_launch there, agents, core]
      refine ⟨⟨agent, ?_, single⟩, _, desk', rfl, same', published⟩
      rw [List.getElem?_set_ne other]
      exact watched
  · rw [timers_move]
    exact apart

/-- Every move that fits keeps the two runs in step. -/
theorem onward (inside : timer.toNat < timerCount) (fits : Fits ids move)
    (owns : ∀ seat id, ids[seat]? = some id → (own id ↔ seat = place))
    (keeps : move.drains = true → Keeps own place session.agents) (empties : Empties session move)
    (granted : ∀ happening ∈ session.happenings (List.range session.agents.length) move,
      happening.refused = false)
    (prompt : Guarded Ledger.next Ledger.Prompt ledger
      (session.happenings (List.range session.agents.length) move)) :
    Onward own place timer session ledger session' ledger' move := by
  cases move with
  | publish end' event => exact together.publish end' fits granted
  | startTimer | stopTimer => exact fits.elim
  | tick => exact together.tick granted
  | drain budget => exact together.drain inside (keeps rfl) empties granted prompt
  | launch seat id =>
    by_cases its : seat = place
    · subst its
      exact together.launch id granted
    · exact together.launch_other its (mt (owns seat id fits).mp its)
  | meanwhile change => exact together.meanwhile change

end Together

/-! ### Runs -/

theorem Together.run {names : List Nat} {moves : List (Move World)}
    (together : Together own place timer session ledger session' ledger')
    (named : names = List.range session.agents.length) (inside : timer.toNat < timerCount)
    (fits : ∀ move ∈ moves, Fits ids move)
    (owns : ∀ seat id, ids[seat]? = some id → (own id ↔ seat = place))
    (keeps : AtDrains (Keeps own place) session moves)
    (empties : Guarded Session.move Empties session moves)
    (granted : ∀ happening ∈ session.history names moves, happening.refused = false)
    (prompt : Guarded Ledger.next Ledger.Prompt ledger (session.history names moves)) :
    (∀ happening ∈ session'.history [0] (alone place moves), happening.refused = false) ∧
      Guarded Session.move Empties session' (alone place moves) ∧
      Together own place timer (session.run moves)
        ((session.history names moves).foldl Ledger.next ledger) (session'.run (alone place moves))
        ((session'.history [0] (alone place moves)).foldl Ledger.next ledger') := by
  induction moves generalizing session session' ledger ledger' with
  | nil => exact ⟨List.forall_mem_nil _, trivial, together⟩
  | cons move rest inductionHypothesis =>
    obtain ⟨grantedNow, grantedLater⟩ := List.forall_mem_append.mp granted
    obtain ⟨promptNow, promptLater⟩ := (guarded_append _ _ _).mp prompt
    obtain ⟨fitsNow, fitsLater⟩ := List.forall_mem_cons.mp fits
    have renamed : names = List.range (session.move move).agents.length := by
      rw [length_move, named]
    obtain ⟨grantedMove, emptiesMove, moved⟩ := together.onward inside fitsNow owns keeps.1
      empties.1 (named ▸ grantedNow) (named ▸ promptNow)
    rw [← named] at moved
    obtain ⟨grantedRest, emptiesRest, onward⟩ := inductionHypothesis moved renamed fitsLater keeps.2
      empties.2 grantedLater promptLater
    rw [alone_cons, Session.history_append, Session.run_append, List.foldl_append, guarded_append,
      Session.history, List.foldl_append]
    exact ⟨List.forall_mem_append.mpr ⟨grantedMove, grantedRest⟩, ⟨emptiesMove, emptiesRest⟩,
      onward⟩

/-- Supervisors that share a node do not disturb each other, unless one shares its id with another
when events are handed out, as it may before both have begun. At every point of a schedule, each is
in the state that it would be in alone, it has set its light to the patterns that it would have set
it to, and its timer has the same ticks left. Alone it is refused nothing either, and its drains
empty the queue. -/
theorem supervisors_undisturbed {config : Reactor.Config} {agents : List (Agent Supervisor)}
    {world : World} {past rest : List (Move World)}
    (shares : Shares ids
      (gather config agents world : Session Supervisor World queueDepth traceDepth timerCount)
      (past ++ rest))
    (unshared : AtDrains (Unshared place)
      (gather config agents world : Session Supervisor World queueDepth traceDepth timerCount) past)
    {agent : Agent Supervisor} (there : agents[place]? = some agent) (world' : World) :
    let shared : Session Supervisor World queueDepth traceDepth timerCount :=
      gather config agents world
    let single : Session Supervisor World queueDepth traceDepth timerCount :=
      gather config [agent] world'
    (∃ after, (shared.run past).agents[place]? = some after ∧
        (single.run (alone place past)).agents = [after] ∧
        (single.run (alone place past)).reactor.timers.remaining agent.body.timer =
          (shared.run past).reactor.timers.remaining agent.body.timer) ∧
      (∀ happening ∈ single.history [0] (alone place past), happening.refused = false) ∧
      Guarded Session.move Empties single (alone place past) := by
  intro shared single
  have inside := shares.inside agent (List.mem_of_getElem? there)
  have fits := (List.forall_mem_append.mp shares.fits).1
  have granted := shares.granted
  have prompt := shares.prompt
  rw [Session.history_append] at granted prompt
  have blank : GoBy (fun seat id => id = 0 ∨ ids[seat]? = some id) shared.agents :=
    fun _ agent there => .inl (shares.blank agent (List.mem_of_getElem? there))
  have its := List.getElem?_eq_getElem
    (shares.length ▸ (List.getElem?_eq_some_iff.mp there).1 : place < ids.length)
  obtain ⟨own, owns, keeps⟩ := exists_keeps shares.distinct its shares.length blank fits unshared
  obtain ⟨granted', empties', together⟩ :=
    (Together.initial there shares.apart world world').run rfl inside fits owns keeps
      ((guarded_append _ _ _).mp shares.empties).1 (List.forall_mem_append.mp granted).1
      ((guarded_append _ _ _).mp prompt).1
  obtain ⟨⟨⟨after, found, lone⟩, desk, desk', same, same', mirrors⟩, -, -⟩ := together
  refine ⟨⟨after, found, lone, ?_⟩, granted', empties'⟩
  have remaining := mirrors.remaining
  rw [same, same'] at remaining
  exact remaining

/-! ### Two on a node -/

namespace Crew

/-- One supervisor on the first timer, one on the second. -/
def members : List (Agent Supervisor) := [{ body := { timer := 0 } }, { body := { timer := 1 } }]

/-- The two on a node of the usual size. -/
def both :
    Session Supervisor (Sim.Bench Sim.Wire) Node.queueDepth Node.traceDepth Node.timerCount :=
  gather {} members { line := {} }

/-- The second one alone on such a node. -/
def second :
    Session Supervisor (Sim.Bench Sim.Wire) Node.queueDepth Node.traceDepth Node.timerCount :=
  gather {} [{ body := { timer := 1 } }] { line := {} }

/-- The second supervisor begins later. When the timer of the first one runs out, a request gets
ahead of its timeout, and an event that the first one could have sent to itself comes in. Then there
is silence. -/
def requestThenSilence : List (Move (Sim.Bench Sim.Wire)) :=
  [.launch 0 1, .drain 8] ++ List.replicate 5 .tick ++ [.launch 1 2, .drain 8] ++
    List.replicate 35 .tick ++
    [.publish .front masterComms, .publish .back (.toSelf 1), .drain 9] ++
    List.replicate 40 .tick ++ [.drain 8]

theorem crew_undisturbed :
    Shares [1, 2] both (requestThenSilence ++ [.tick]) ∧
      AtDrains (Unshared 1) both requestThenSilence ∧
      (both.run requestThenSilence).agents.map
          (fun agent => (agent.context.state, agent.body.shown)) =
        [(lost, [.healthy, .healthy, .healthy, .noMaster]),
          (lost, [.healthy, .healthy, .noMaster])] ∧
      ∃ after, (both.run requestThenSilence).agents[1]? = some after ∧
        (second.run (alone 1 requestThenSilence)).agents = [after] := by
  have shares : Shares [1, 2] both (requestThenSilence ++ [.tick]) :=
    { inside := by decide
      apart := by decide
      distinct := by decide
      length := rfl
      blank := by decide
      fits := by decide +kernel
      empties := by decide +kernel
      granted := by decide +kernel
      prompt := by decide +kernel }
  have unshared : AtDrains (Unshared 1) both requestThenSilence := by decide +kernel
  have there : members[1]? = some { body := { timer := 1 } } := rfl
  obtain ⟨⟨after, found, single, -⟩, -⟩ :=
    supervisors_undisturbed shares unshared there { line := {} }
  exact ⟨shares, unshared, by decide +kernel, after, found, single⟩

/-- The first supervisor is given the id that the second one still goes by when events are handed
out. -/
def zeroBeforeSecond : List (Move (Sim.Bench Sim.Wire)) := [.launch 0 0, .drain 8]

/-- The second supervisor takes what the first one has sent to itself. It sets its light and starts
its timer before it has begun, which it would not have done alone, and later it sets its light twice
where alone it would have set it once. -/
theorem early_drain_disturbs :
    Shares [0, 1] both (zeroBeforeSecond ++ [.launch 1 1, .drain 8]) ∧
      ((both.run zeroBeforeSecond).agents[1]?.map (·.body.shown) = some [.healthy] ∧
        (second.run (alone 1 zeroBeforeSecond)).agents.map (·.body.shown) = [[]]) ∧
      ((both.run zeroBeforeSecond).reactor.timers.remaining 1 = 40 ∧
        (second.run (alone 1 zeroBeforeSecond)).reactor.timers.remaining 1 = 0) ∧
      (both.run (zeroBeforeSecond ++ [.launch 1 1, .drain 8])).agents[1]?.map (·.body.shown) =
        some [.healthy, .healthy] ∧
      (second.run (alone 1 (zeroBeforeSecond ++ [.launch 1 1, .drain 8]))).agents.map
        (·.body.shown) = [[.healthy]] := by
  refine ⟨?_, by decide +kernel⟩
  exact
    { inside := by decide
      apart := by decide
      distinct := by decide
      length := rfl
      blank := by decide
      fits := by decide +kernel
      empties := by decide +kernel
      granted := by decide +kernel
      prompt := by decide +kernel }

end Crew

end BusNode.Supervisor
