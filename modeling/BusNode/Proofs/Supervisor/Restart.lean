/-
This file proves which supervisors start their timers again when the master is heard. The request
frees one place in the queue, and every supervisor that reacts to it wants one, for the event that
it sends to itself. So the first ones have their timers started, in the order in which they are
offered the request, as many as there are places. The others are left as they were, and the request
is gone.

The events that supervisors send to themselves come before all that waited already, the last sent
first. So those timers are started before anything else happens.
-/
import BusNode.Node
import BusNode.Proofs.Reactor.Session
import BusNode.Proofs.Supervisor.Handling
import BusNode.Sim.Bench
import BusNode.Sim.Wire
import Mathlib.Data.List.Nodup
import Mathlib.Logic.Function.Iterate

namespace BusNode.Supervisor

open Reactor (Core Move Session)

variable {depth queueDepth traceDepth : Depth} {count timerCount : Nat}

/-- Supervisors that share neither an id nor a timer, on timers that there are. -/
structure Apart (count : Nat) (agents : List (Agent Supervisor)) : Prop where
  ids : (agents.map fun agent => agent.context.id).Nodup
  timers : (agents.map fun agent => agent.body.timer).Nodup
  inside : ∀ agent ∈ agents, agent.body.timer.toNat < count

namespace Apart

variable {agents : List (Agent Supervisor)}

theorem eq_of_id (apart : Apart count agents) {agent other : Agent Supervisor}
    (member : agent ∈ agents) (among : other ∈ agents)
    (same : agent.context.id = other.context.id) : agent = other :=
  List.inj_on_of_nodup_map apart.ids member among same

theorem eq_of_timer (apart : Apart count agents) {agent other : Agent Supervisor}
    (member : agent ∈ agents) (among : other ∈ agents)
    (same : agent.body.timer = other.body.timer) : agent = other :=
  List.inj_on_of_nodup_map apart.timers member among same

theorem tail {agent : Agent Supervisor} (apart : Apart count (agent :: agents)) :
    Apart count agents where
  ids := (List.nodup_cons.mp apart.ids).2
  timers := (List.nodup_cons.mp apart.timers).2
  inside := fun other among => apart.inside other (List.mem_cons_of_mem _ among)

/-- What a supervisor does changes neither its id nor its timer. -/
theorem map (apart : Apart count agents) {change : Agent Supervisor → Agent Supervisor}
    (ids : ∀ agent, (change agent).context.id = agent.context.id)
    (timers : ∀ agent, (change agent).body.timer = agent.body.timer) :
    Apart count (agents.map change) where
  ids := by
    rw [List.map_map, Function.comp_def, List.map_congr_left fun agent _ => ids agent]
    exact apart.ids
  timers := by
    rw [List.map_map, Function.comp_def, List.map_congr_left fun agent _ => timers agent]
    exact apart.timers
  inside := by
    intro agent member
    obtain ⟨before, among, rfl⟩ := List.mem_map.mp member
    rw [timers]
    exact apart.inside before among

end Apart

/-! ### The request -/

/-- The ids of the supervisors that react to a request, in order. -/
def listeners (agents : List (Agent Supervisor)) : List UInt8 :=
  (agents.filter listens).map fun agent => agent.context.id

theorem length_listeners (agents : List (Agent Supervisor)) :
    (listeners agents).length = agents.countP listens := by
  rw [listeners, List.length_map, List.countP_eq_length_filter]

theorem listeners_split {agent : Agent Supervisor} (attends : listens agent = true)
    (before after : List (Agent Supervisor)) :
    listeners (before ++ agent :: after) =
      listeners before ++ agent.context.id :: listeners after := by
  simp [listeners, attends]

theorem nodup_listeners {agents : List (Agent Supervisor)} (apart : Apart count agents) :
    (listeners agents).Nodup :=
  (List.filter_sublist.map _).nodup apart.ids

theorem id_roused (agent : Agent Supervisor) : (roused agent).context.id = agent.context.id := by
  unfold roused
  split <;> rfl

theorem timer_roused (agent : Agent Supervisor) : (roused agent).body.timer = agent.body.timer := by
  unfold roused
  split <;> rfl

/-- A supervisor that reacts to a request finds the master there. -/
theorem state_roused {agent : Agent Supervisor} (attends : listens agent = true) :
    (roused agent).context.state = running := by
  unfold roused
  split
  · rfl
  · rename_i there
    simpa [listens, there] using attends

/-- Supervisors that are offered a request send themselves events as long as there is room. -/
theorem offers_comms {agents later : List (Agent Supervisor)} {event : Event}
    {core last : Core depth count} (sign : event.id = masterCommsId)
    (offers : Core.Offers event agents core later last) :
    later = agents.map roused ∧
      last = { core with
        waiting := (((listeners agents).take (depth.size - core.waiting.length)).map
          Event.toSelf).reverse ++ core.waiting } := by
  -- Each supervisor that reacts leaves one place less to those behind it.
  induction agents generalizing core later with
  | nil =>
    obtain ⟨rfl, rfl⟩ := Core.offers_nil.mp offers
    exact ⟨rfl, by simp [listeners]⟩
  | cons agent rest inductionHypothesis =>
    obtain ⟨others, rfl, onward⟩ := (dispatch_comms sign).offers_cons.mp offers
    obtain ⟨rfl, rfl⟩ := inductionHypothesis onward
    refine ⟨rfl, ?_⟩
    cases attends : listens agent with
    | false => simp [listeners, attends]
    | true =>
      by_cases room : core.waiting.length < depth.size
      · obtain ⟨left, more⟩ : ∃ left, depth.size - core.waiting.length = left + 1 :=
          ⟨depth.size - core.waiting.length - 1, by omega⟩
        have fewer : depth.size - (core.waiting.length + 1) = left := by omega
        have real : (Event.toSelf agent.context.id).isNil = false := rfl
        simp [listeners, attends, Core.publish_of_room real .front room, Core.join, more, fewer]
      · have full := Nat.not_lt.mp room
        have real : (Event.toSelf agent.context.id).isNil = false := rfl
        simp [listeners, attends, Core.publish_of_full real .front full,
          Nat.sub_eq_zero_of_le full]

/-! ### The events that supervisors send to themselves -/

/-- The supervisor after the event that was sent to the given id. -/
def answered (id : UInt8) (agent : Agent Supervisor) : Agent Supervisor :=
  if agent.context.id = id then setLight .healthy agent else agent

theorem id_answered (id : UInt8) (agent : Agent Supervisor) :
    (answered id agent).context.id = agent.context.id := by
  unfold answered
  split <;> rfl

theorem timer_answered (id : UInt8) (agent : Agent Supervisor) :
    (answered id agent).body.timer = agent.body.timer := by
  unfold answered
  split <;> rfl

theorem state_answered (id : UInt8) (agent : Agent Supervisor) :
    (answered id agent).context.state = agent.context.state := by
  unfold answered
  split <;> rfl

theorem offers_toSelf_other {agents later : List (Agent Supervisor)} {id : UInt8}
    {core last : Core depth count} (other : ∀ agent ∈ agents, agent.context.id ≠ id)
    (offers : Core.Offers (.toSelf id) agents core later last) :
    later = agents ∧ last = core := by
  induction agents generalizing later with
  | nil => exact Core.offers_nil.mp offers
  | cons agent rest inductionHypothesis =>
    obtain ⟨different, others⟩ := List.forall_mem_cons.mp other
    obtain ⟨tail, rfl, onward⟩ := (dispatch_toSelf_other different).offers_cons.mp offers
    obtain ⟨rfl, rfl⟩ := inductionHypothesis others onward
    exact ⟨rfl, rfl⟩

theorem offers_toSelf {agents later : List (Agent Supervisor)} {agent : Agent Supervisor}
    {core last : Core depth count} (apart : Apart count agents) (member : agent ∈ agents)
    (here : agent.context.state = running)
    (offers : Core.Offers (.toSelf agent.context.id) agents core later last) :
    later = agents.map (answered agent.context.id) ∧
      last = (core.startTimer agent.body.timer (core.config.ticksIn patience)).2 := by
  induction agents generalizing later with
  | nil => cases member
  | cons first rest inductionHypothesis =>
    by_cases own : first.context.id = agent.context.id
    · obtain rfl := apart.eq_of_id List.mem_cons_self member own
      have other : ∀ other ∈ rest, other.context.id ≠ first.context.id := fun other among same =>
        (List.nodup_cons.mp apart.ids).1 (List.mem_map.mpr ⟨other, among, same⟩)
      have unanswered : rest.map (answered first.context.id) = rest :=
        (List.map_congr_left fun agent among => if_neg (other agent among)).trans (List.map_id _)
      obtain ⟨tail, rfl, onward⟩ := (dispatch_toSelf_running here rfl).offers_cons.mp offers
      obtain ⟨same, rfl⟩ := offers_toSelf_other other onward
      refine ⟨?_, rfl⟩
      rw [List.map_cons, answered, if_pos rfl, unanswered, same]
    · obtain ⟨tail, rfl, onward⟩ := (dispatch_toSelf_other own).offers_cons.mp offers
      have among : agent ∈ rest := (List.mem_cons.mp member).resolve_left fun same =>
        own (same ▸ rfl)
      obtain ⟨rfl, rfl⟩ := inductionHypothesis apart.tail among onward
      refine ⟨?_, rfl⟩
      rw [List.map_cons, answered, if_neg own]

/-- What has become of a supervisor and its timer when the events to the given ids were handed out,
the first of them first. -/
structure Restarts (ids : List UInt8) (agents : List (Agent Supervisor))
    (before after : Core depth count) : Prop where
  config : after.config = before.config
  lastCookie : after.timers.lastCookie = TimerBank.nextCookie^[ids.length] before.timers.lastCookie
  timer : ∀ agent ∈ agents, after.timers.timer? agent.body.timer =
    if agent.context.id ∈ ids then
      some {
        remaining := before.config.ticksIn patience
        cookie :=
          TimerBank.nextCookie^[ids.idxOf agent.context.id + 1] before.timers.lastCookie }
    else before.timers.timer? agent.body.timer

/-- The event for one more supervisor is handed out ahead of the others. -/
theorem Restarts.cons {agents : List (Agent Supervisor)} (apart : Apart count agents)
    {agent : Agent Supervisor} (member : agent ∈ agents) {ids : List UInt8}
    (fresh : agent.context.id ∉ ids) {before between after : Core depth count}
    (rearmed : Rearmed agent.body.timer before between)
    (restarts : Restarts ids (agents.map (answered agent.context.id)) between after) :
    Restarts (agent.context.id :: ids) agents before after := by
  refine ⟨restarts.config.trans rearmed.config, ?_, fun other among => ?_⟩
  · rw [restarts.lastCookie, rearmed.lastCookie, List.length_cons, Function.iterate_succ_apply]
  · have kept := restarts.timer (answered agent.context.id other) (List.mem_map_of_mem among)
    rw [timer_answered, id_answered] at kept
    rw [kept]
    by_cases own : other.context.id = agent.context.id
    · obtain rfl := apart.eq_of_id among member own
      rw [if_neg fresh, if_pos List.mem_cons_self, List.idxOf_cons_self, rearmed.timer]
      rfl
    · have apartTimer : other.body.timer ≠ agent.body.timer := fun same =>
        own (apart.eq_of_timer among member same ▸ rfl)
      rw [rearmed.others _ apartTimer, rearmed.config, rearmed.lastCookie,
        List.idxOf_cons_ne _ (Ne.symm own)]
      simp only [List.mem_cons, own, false_or]
      rfl

section Sessions

variable {World : Type} [Clock World] [Journal World]

theorem hand_out_toSelf {session : Session Supervisor World queueDepth traceDepth timerCount}
    (apart : Apart timerCount session.agents) {ids : List UInt8} (different : ids.Nodup)
    (awake : ∀ id ∈ ids, ∃ agent ∈ session.agents,
      agent.context.id = id ∧ agent.context.state = running)
    {waiting : List Event} (next : session.core.waiting = ids.map Event.toSelf ++ waiting) :
    ∃ later : Session Supervisor World queueDepth traceDepth timerCount,
      (∀ more, session.move (.drain (ids.length + more)) = later.move (.drain more)) ∧
        later.core.waiting = waiting ∧ Restarts ids session.agents session.core later.core := by
  -- To hand out the first event changes no id, no timer of a supervisor and no state, so what is
  -- assumed of the supervisors still holds for the events behind it.
  induction ids generalizing session with
  | nil =>
    exact ⟨session, fun more => by rw [List.length_nil, Nat.zero_add], next, rfl, rfl, by simp⟩
  | cons id rest inductionHypothesis =>
    obtain ⟨fresh, differ⟩ := List.nodup_cons.mp different
    obtain ⟨⟨agent, member, rfl, here⟩, others⟩ := List.forall_mem_cons.mp awake
    obtain ⟨between, offers, first⟩ := session.move_drain_of_cons next
    obtain ⟨changed, core⟩ := offers_toSelf apart member here offers
    have rearmed : Rearmed agent.body.timer { session.core with
        waiting := rest.map Event.toSelf ++ waiting } between.core := by
      rw [core]
      exact rearmed (apart.inside agent member) _
    have apartAfter : Apart timerCount between.agents := by
      rw [changed]
      exact apart.map (id_answered _) (timer_answered _)
    have awakeAfter : ∀ id ∈ rest, ∃ agent ∈ between.agents,
        agent.context.id = id ∧ agent.context.state = running := by
      intro id among
      obtain ⟨other, held, own, there⟩ := others id among
      rw [changed]
      exact ⟨answered agent.context.id other, List.mem_map_of_mem held,
        (id_answered _ _).trans own, (state_answered _ _).trans there⟩
    obtain ⟨later, onward, same, restarts⟩ :=
      inductionHypothesis apartAfter differ awakeAfter rearmed.waiting
    rw [changed] at restarts
    have whole := restarts.cons apart member fresh rearmed
    refine ⟨later, fun more => ?_, same, whole.config, whole.lastCookie, whole.timer⟩
    rw [List.length_cons, Nat.add_right_comm, first, onward]

/-! ### Who is reached -/

/-- Of a row without repetitions, taken as far as there is room and turned round, an element is
found behind those that came after it. -/
theorem idxOf_taken {before after : List UInt8} {id : UInt8}
    (different : (before ++ id :: after).Nodup) {room : Nat} (fits : before.length < room) :
    id ∈ ((before ++ id :: after).take room).reverse ∧
      (((before ++ id :: after).take room).reverse.idxOf id) + 1 =
        ((before ++ id :: after).take room).length - before.length := by
  obtain ⟨left, more⟩ : ∃ left, room - before.length = left + 1 :=
    ⟨room - before.length - 1, by omega⟩
  have taken : (before ++ id :: after).take room = before ++ id :: after.take left := by
    rw [List.take_append, List.take_of_length_le (Nat.le_of_lt fits), more, List.take_succ_cons]
  have fresh : id ∉ (after.take left).reverse := by
    rw [List.mem_reverse]
    intro among
    have alone := (List.nodup_cons.mp (List.nodup_middle.mp different)).1
    exact alone (List.mem_append_right _ (List.mem_of_mem_take among))
  rw [taken, List.reverse_append, List.reverse_cons, List.append_assoc, List.singleton_append,
    List.idxOf_append_of_notMem fresh, List.idxOf_cons_self, List.length_reverse,
    List.length_append, List.length_cons]
  exact ⟨by simp, by omega⟩

/-- An element with too many before it is not among those taken. -/
theorem not_mem_taken {before after : List UInt8} {id : UInt8}
    (different : (before ++ id :: after).Nodup) {room : Nat} (full : room ≤ before.length) :
    id ∉ ((before ++ id :: after).take room).reverse := by
  rw [List.mem_reverse, List.take_append, Nat.sub_eq_zero_of_le full, List.take_zero,
    List.append_nil]
  intro among
  have alone := (List.nodup_cons.mp (List.nodup_middle.mp different)).1
  exact alone (List.mem_append_left _ (List.mem_of_mem_take among))

/-- How many supervisors a request reaches when the queue has room for so many events. -/
def reached (room : Nat) (agents : List (Agent Supervisor)) : Nat :=
  ((listeners agents).take room).length

/-- A drain starts the timer of every supervisor that finds the master there and for which the
events that waited, and the supervisors before it, leave a place in the queue. It starts them before
it does anything with the events that waited, one after the other from the last to the first, and
leaves the timers of the others alone. -/
def RestartsWhereRoom (session : Session Supervisor World queueDepth traceDepth timerCount)
    (waiting : List Event) : Prop :=
  ∃ later : Session Supervisor World queueDepth traceDepth timerCount,
    (∀ more, session.move
        (.drain (1 + reached (queueDepth.size - waiting.length) session.agents + more)) =
      later.move (.drain more)) ∧
    later.reactor.queue.toList = waiting ∧
    ∀ before agent after, session.agents = before ++ agent :: after →
      agent.context.state = running →
      later.reactor.timers.timer? agent.body.timer =
        if waiting.length + before.countP listens < queueDepth.size then
          some {
            remaining := session.reactor.config.ticksIn patience
            cookie := TimerBank.nextCookie^[reached (queueDepth.size - waiting.length)
              session.agents - before.countP listens] session.reactor.timers.lastCookie }
        else session.reactor.timers.timer? agent.body.timer

/-- A request from the master, once it is taken from the queue, makes the supervisors start their
timers as far as the queue has room. -/
theorem restarted_iff_room {session : Session Supervisor World queueDepth traceDepth timerCount}
    (apart : Apart timerCount session.agents) {event : Event} {waiting : List Event}
    (next : session.reactor.queue.toList = event :: waiting) (sign : event.id = masterCommsId) :
    RestartsWhereRoom session waiting := by
  obtain ⟨between, offers, first⟩ := session.move_drain_of_cons next
  obtain ⟨changed, core⟩ := offers_comms sign offers
  have apartAfter : Apart timerCount between.agents := by
    rw [changed]
    exact apart.map id_roused timer_roused
  have different : ((listeners session.agents).take
      (queueDepth.size - waiting.length)).reverse.Nodup :=
    List.nodup_reverse.mpr ((List.take_sublist _ _).nodup (nodup_listeners apart))
  have awake : ∀ id ∈ ((listeners session.agents).take (queueDepth.size - waiting.length)).reverse,
      ∃ agent ∈ between.agents, agent.context.id = id ∧ agent.context.state = running := by
    intro id among
    obtain ⟨agent, held, rfl⟩ := List.mem_map.mp (List.mem_of_mem_take (List.mem_reverse.mp among))
    obtain ⟨member, attends⟩ := List.mem_filter.mp held
    rw [changed]
    exact ⟨roused agent, List.mem_map_of_mem member, id_roused agent, state_roused attends⟩
  have sent : between.core.waiting = ((listeners session.agents).take
      (queueDepth.size - waiting.length)).reverse.map Event.toSelf ++ waiting := by
    rw [core, List.map_reverse]
  obtain ⟨later, onward, same, restarts⟩ := hand_out_toSelf apartAfter different awake sent
  rw [List.length_reverse] at onward
  refine ⟨later, fun more => ?_, same, ?_⟩
  · rw [reached, Nat.add_assoc, Nat.add_comm 1, first, onward]
  · intro before agent after split here
    have attends : listens agent = true := by simp [listens, here]
    have still : roused agent = agent := if_neg (by rw [here]; decide)
    have member : agent ∈ between.agents := by
      rw [changed, ← still]
      exact List.mem_map_of_mem (by rw [split]; exact List.mem_append_right _ List.mem_cons_self)
    have unique := nodup_listeners apart
    have kept := restarts.timer agent member
    rw [reached]
    rw [split, listeners_split attends] at unique kept ⊢
    rw [core] at kept
    rw [← length_listeners]
    by_cases fits : (listeners before).length < queueDepth.size - waiting.length
    · obtain ⟨among, index⟩ := idxOf_taken unique fits
      rw [if_pos among, index] at kept
      rw [if_pos (by omega)]
      exact kept
    · rw [if_neg (not_mem_taken unique (Nat.not_lt.mp fits))] at kept
      rw [if_neg (by omega)]
      exact kept

end Sessions

/-- Two supervisors on a node of the usual size, ten ticks after they were started. -/
def pairWithThirtyLeft :
    Session Supervisor (Sim.Bench Sim.Wire) Node.queueDepth Node.traceDepth Node.timerCount :=
  ({ agents := [{ body := { timer := 0 } }, { body := { timer := 1 } }], reactor := .idle {},
     world := { line := {} } } : Session _ _ _ _ _).run
    ([.launch 0 1, .launch 1 2, .drain 8] ++ List.replicate 10 .tick)

/-- Both are there, with thirty of their forty ticks left, when a request comes in and some events
of the application behind it. -/
def pairWithRequest (behind : Nat) :
    Session Supervisor (Sim.Bench Sim.Wire) Node.queueDepth Node.traceDepth Node.timerCount :=
  pairWithThirtyLeft.run
    (.publish .back masterComms :: List.replicate behind (.publish .back { id := 11 }))

/-- Six events behind the request leave room for both supervisors. -/
theorem both_restarted_before_six :
    Apart Node.timerCount (pairWithRequest 6).agents ∧
      (pairWithRequest 6).reactor.queue.toList = masterComms :: List.replicate 6 { id := 11 } ∧
      RestartsWhereRoom (pairWithRequest 6) (List.replicate 6 { id := 11 }) ∧
      ((pairWithRequest 6).move (.drain 3)).reactor.timers.timer? 0 =
        some { remaining := 40, cookie := 4 } ∧
      ((pairWithRequest 6).move (.drain 3)).reactor.timers.timer? 1 =
        some { remaining := 40, cookie := 3 } := by
  have apart : Apart Node.timerCount (pairWithRequest 6).agents :=
    ⟨by decide +kernel, by decide +kernel, by decide +kernel⟩
  have next : (pairWithRequest 6).reactor.queue.toList =
      masterComms :: List.replicate 6 { id := 11 } := by
    decide +kernel
  exact ⟨apart, next, restarted_iff_room apart next rfl, by decide +kernel, by decide +kernel⟩

/-- Seven events behind the request leave room for one supervisor only. The timer of the other still
has its thirty ticks, both before those events are handed out and after. -/
theorem one_restarted_before_seven :
    Apart Node.timerCount (pairWithRequest 7).agents ∧
      (pairWithRequest 7).reactor.queue.toList = masterComms :: List.replicate 7 { id := 11 } ∧
      (pairWithRequest 7).agents.map (fun agent => agent.context.state) = [running, running] ∧
      ((pairWithRequest 7).move (.drain 2)).reactor.queue.toList = List.replicate 7 { id := 11 } ∧
      ((pairWithRequest 7).move (.drain 2)).reactor.timers.timer? 0 =
        some { remaining := 40, cookie := 3 } ∧
      ((pairWithRequest 7).move (.drain 2)).reactor.timers.timer? 1 =
        some { remaining := 30, cookie := 1 } ∧
      ((pairWithRequest 7).move (.drain 9)).reactor.queue.toList = [] ∧
      ((pairWithRequest 7).move (.drain 9)).reactor.timers.timer? 1 =
        some { remaining := 30, cookie := 1 } :=
  ⟨⟨by decide +kernel, by decide +kernel, by decide +kernel⟩, by decide +kernel, by decide +kernel,
    by decide +kernel, by decide +kernel, by decide +kernel, by decide +kernel, by decide +kernel⟩

end BusNode.Supervisor
