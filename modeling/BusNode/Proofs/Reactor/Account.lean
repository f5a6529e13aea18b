/-
This file says what ought to be in the trace: for everything that the application or a machine asks
of a reactor, the events that tell of it, in their order and each with its time. An event that is
published gives itself, and a mark if it is refused. A timer that is started gives a mark, and its
timeout if it runs out at once. A timer that is stopped gives a mark if it was counting, and a tick
gives the timeouts that are due. A machine that moves gives a mark between what it does on leaving
and what it does on entering.

These accounts say nothing of the trace. For each operation there is one theorem which says that it
writes its account to the trace and nothing else.
-/
import BusNode.Proofs.Reactor.Ensemble
import BusNode.Proofs.Trace.Tape

namespace BusNode.Reactor

variable {queueDepth traceDepth : Depth} {timerCount : Nat}
variable {World : Type} [Clock World] [Journal World]

/-! ### Events -/

section Events

variable (reactor : Reactor queueDepth traceDepth timerCount) (world : World)

/-- What an event gives that goes to the trace only. -/
def traceAccount (event : Event) : List TraceEntry :=
  [{ time := ((Clock.millis : StateM World UInt32) world).1, event }]

/-- What the publication of an event gives: the event, and if it is refused a mark with its id. A
null event gives nothing. -/
def publishAccount (place : QueueEnd) (event : Event) : List TraceEntry :=
  let time := ((Clock.millis : StateM World UInt32) world).1
  if event.isNil then []
  else { time, event } ::
    if (reactor.publish place event world).1.1 then [] else [{ time, event := .queueFull event.id }]

/-- What the publication of events gives that are published one behind the other. -/
def publishAllAccount : List Event → Reactor queueDepth traceDepth timerCount → World →
    List TraceEntry
  | [], _, _ => []
  | event :: rest, reactor, world =>
    reactor.publishAccount world .back event ++
      publishAllAccount rest (reactor.publish .back event world).1.2
        (reactor.publish .back event world).2

omit [Journal World] in
theorem trace_traceEvent (event : Event) :
    (reactor.traceEvent event world).1.trace =
      (traceAccount world event).foldl TraceLog.put reactor.trace := rfl

theorem trace_publish (place : QueueEnd) (event : Event) :
    (reactor.publish place event world).1.2.trace =
      (reactor.publishAccount world place event).foldl TraceLog.put reactor.trace := by
  unfold publishAccount publish
  cases event.isNil with
  | true => rfl
  | false =>
    simp only [Bool.false_eq_true, if_false]
    cases inserted : reactor.queue.insert? place event with
    | none =>
      simp only [record, inserted]
      rfl
    | some queue =>
      simp only [record, inserted]
      rfl

/-- Whether an event is refused depends on the queue alone. -/
theorem publishAccount_congr {other : Reactor queueDepth traceDepth timerCount}
    (same : other.queue = reactor.queue) (place : QueueEnd) (event : Event) :
    other.publishAccount world place event = reactor.publishAccount world place event := by
  have answer :
      (other.publish place event world).1.1 = (reactor.publish place event world).1.1 := by
    unfold publish
    cases event.isNil with
    | true => rfl
    | false =>
      simp only [record, same, Bool.false_eq_true, if_false]
      cases reactor.queue.insert? place event <;> rfl
  rw [publishAccount, publishAccount, answer]

theorem trace_emitAll_publish (events : List Event) :
    (emitAll (events.map .publish) reactor world).1.trace =
      (publishAllAccount events reactor world).foldl TraceLog.put reactor.trace := by
  induction events generalizing reactor world with
  | nil => rfl
  | cons event rest inductionHypothesis =>
    have later := inductionHypothesis (reactor.publish .back event world).1.2
      (reactor.publish .back event world).2
    rw [trace_publish] at later
    rw [publishAllAccount, List.foldl_append]
    exact later

end Events

/-! ### Timers -/

section Timers

variable (reactor : Reactor queueDepth traceDepth timerCount) (world : World)

/-- What the start of a timer gives: a mark, and what the publication of its timeout gives if it
runs out at once. There is nothing to start outside the bank. -/
def startAccount (index : UInt8) (ticks : UInt16) : List TraceEntry :=
  let cookie := TimerBank.nextCookie reactor.timers.lastCookie
  let armed := (Journal.note (.timerArmed index ticks cookie)
    ((Clock.millis : StateM World UInt32) world).2).2
  if index.toNat < timerCount then
    traceAccount world (.timerArm index ticks) ++
      if ticks = 0 then reactor.publishAccount armed .back (.timeout index cookie) else []
  else []

/-- What the stop of a timer gives: a mark, if the timer was counting. -/
def stopAccount (index : UInt8) : List TraceEntry :=
  let left := reactor.timers.remaining index
  if left = 0 then [] else traceAccount world (.timerStop index left)

/-- The timeouts of the timers with one tick left, by index. -/
def due (bank : TimerBank timerCount) : List Event :=
  (List.finRange timerCount).filterMap fun index : Fin timerCount =>
    if bank.timers[index].remaining = 1 then
      some (.timeout (UInt8.ofNat index) bank.timers[index].cookie)
    else none

/-- What a tick gives: what the publication of every timeout gives that is due. -/
def tickAccount : List TraceEntry :=
  publishAllAccount (due reactor.timers) { reactor with timers := reactor.timers.tick.2 } world

theorem expiring_eq_due (bank : TimerBank timerCount) : bank.expiring = due bank := by
  have pairs : bank.timers.toList.zipIdx =
      (List.finRange timerCount).map fun index : Fin timerCount =>
        (bank.timers[index], index.val) := by
    refine List.ext_getElem (by simp) fun place inside also => ?_
    simp
  rw [TimerBank.expiring, pairs, List.filterMap_map, due]
  refine List.filterMap_congr fun index _ => ?_
  simp [Timer.isExpiring]

theorem trace_startTimer (index : UInt8) (ticks : UInt16) :
    (reactor.startTimer index ticks world).1.2.trace =
      (reactor.startAccount world index ticks).foldl TraceLog.put reactor.trace := by
  unfold startTimer startAccount
  by_cases inside : index.toNat < timerCount
  · let cookie := TimerBank.nextCookie reactor.timers.lastCookie
    obtain ⟨timers, start⟩ : ∃ timers, reactor.timers.start? index ticks =
        some (cookie, TimerBank.startEmissions index ticks cookie, timers) := ⟨_, dif_pos inside⟩
    rw [start, if_pos inside, List.foldl_append, TimerBank.startEmissions]
    by_cases ended : ticks = 0
    · -- The timeout is published when the mark is in the trace and the timer has its cookie.
      let armed : Reactor queueDepth traceDepth timerCount :=
        { reactor with
          timers
          trace := (traceAccount world (.timerArm index ticks)).foldl TraceLog.put reactor.trace }
      let later : World := (Journal.note (.timerArmed index ticks cookie)
        ((Clock.millis : StateM World UInt32) world).2).2
      have same : armed.queue = reactor.queue := rfl
      rw [if_pos ended, if_pos ended, ← publishAccount_congr reactor later same]
      exact trace_publish armed later .back (.timeout index cookie)
    · rw [if_neg ended, if_neg ended]
      rfl
  · have start : reactor.timers.start? index ticks = none := dif_neg inside
    rw [start, if_neg inside]
    rfl

theorem stop_fst (bank : TimerBank timerCount) (index : UInt8) :
    (bank.stop index).1 =
      if bank.remaining index = 0 then []
      else [.trace (.timerStop index (bank.remaining index))] := by
  by_cases inside : index.toNat < timerCount <;>
    simp [TimerBank.stop, TimerBank.remaining, TimerBank.timer?, inside]

theorem trace_stopTimer (index : UInt8) :
    (reactor.stopTimer index world).1.trace =
      (reactor.stopAccount world index).foldl TraceLog.put reactor.trace := by
  show (emitAll (reactor.timers.stop index).1 _ world).1.trace = _
  rw [stop_fst, stopAccount]
  by_cases none : reactor.timers.remaining index = 0
  · rw [if_pos none, if_pos none]
    rfl
  · rw [if_neg none, if_neg none]
    rfl

theorem trace_tick :
    (reactor.tick world).1.trace =
      (reactor.tickAccount world).foldl TraceLog.put reactor.trace := by
  rw [tickAccount, ← expiring_eq_due]
  exact trace_emitAll_publish { reactor with timers := reactor.timers.tick.2 } world _

end Timers

/-! ### Machines -/

section Scripts

variable {α β : Type}

/-- What a service gives. -/
def serviceAccount (service : Service) (reactor : Reactor queueDepth traceDepth timerCount)
    (world : World) : List TraceEntry :=
  match service with
  | .publish place event => reactor.publishAccount world place event
  | .trace event => traceAccount world event
  | .startTimer index ticks => reactor.startAccount world index ticks
  | .stopTimer index => reactor.stopAccount world index
  | .ticksLeft _ | .isCurrent _ | .ticksIn _ | .now | .note _ => []

/-- What a script gives: what the services give that it asks for. -/
def playAccount : Script α → Reactor queueDepth traceDepth timerCount → World → List TraceEntry
  | .done _, _, _ => []
  | .ask service next, reactor, world =>
    serviceAccount service reactor world ++
      playAccount (next (reactor.perform service world).1.1) (reactor.perform service world).1.2
        (reactor.perform service world).2

theorem play_bind (script : Script α) (next : α → Script β)
    (reactor : Reactor queueDepth traceDepth timerCount) (world : World) :
    reactor.play (script >>= next) world =
      (reactor.play script world).1.2.play (next (reactor.play script world).1.1)
        (reactor.play script world).2 := by
  induction script generalizing reactor world with
  | done result => rfl
  | ask service rest inductionHypothesis =>
    exact inductionHypothesis (reactor.perform service world).1.1
      (reactor.perform service world).1.2 (reactor.perform service world).2

theorem playAccount_bind (script : Script α) (next : α → Script β)
    (reactor : Reactor queueDepth traceDepth timerCount) (world : World) :
    playAccount (script >>= next) reactor world =
      playAccount script reactor world ++
        playAccount (next (reactor.play script world).1.1) (reactor.play script world).1.2
          (reactor.play script world).2 := by
  induction script generalizing reactor world with
  | done result => rfl
  | ask service rest inductionHypothesis =>
    have later := inductionHypothesis (reactor.perform service world).1.1
      (reactor.perform service world).1.2 (reactor.perform service world).2
    rw [Script.ask_bind, playAccount, playAccount, List.append_assoc]
    exact congrArg (serviceAccount service reactor world ++ ·) later

theorem trace_perform (service : Service) (reactor : Reactor queueDepth traceDepth timerCount)
    (world : World) :
    (reactor.perform service world).1.2.trace =
      (serviceAccount service reactor world).foldl TraceLog.put reactor.trace := by
  cases service with
  | publish place event => exact trace_publish reactor world place event
  | trace event => exact trace_traceEvent reactor world event
  | startTimer index ticks => exact trace_startTimer reactor world index ticks
  | stopTimer index => exact trace_stopTimer reactor world index
  | ticksLeft _ | isCurrent _ | ticksIn _ | now | note _ => rfl

theorem trace_play (script : Script α) (reactor : Reactor queueDepth traceDepth timerCount)
    (world : World) :
    (reactor.play script world).1.2.trace =
      (playAccount script reactor world).foldl TraceLog.put reactor.trace := by
  induction script generalizing reactor world with
  | done result => rfl
  | ask service next inductionHypothesis =>
    have later := inductionHypothesis (reactor.perform service world).1.1
      (reactor.perform service world).1.2 (reactor.perform service world).2
    rw [trace_perform] at later
    rw [playAccount, List.foldl_append]
    exact later

end Scripts

section Machines

variable {Body : Type} [Machine Body]

/-- What a machine gives that moves to a state: what it asks for on leaving its state, a mark, and
what it asks for on entering the other. -/
def transitionAccount (state : UInt8) (agent : Agent Body)
    (reactor : Reactor queueDepth traceDepth timerCount) (world : World) : List TraceEntry :=
  let (((_, left), after), later) := reactor.play (Machine.handle .exit agent) world
  let mark := .stateChange left.context.id state
  let (marked, onward) := after.traceEvent mark later
  let noted := (Journal.note (.stateChanged left.context.id left.context.state state) onward).2
  let entered : Agent Body := { left with context := { left.context with state } }
  playAccount (Machine.handle .exit agent) reactor world ++ traceAccount later mark ++
    playAccount (Machine.handle .entry entered) marked noted

/-- What a machine gives that is offered an event: nothing if the event is held back, or what it
asks for in answer, and what it gives if it moves then. -/
def dispatchAccount (event : Event) (agent : Agent Body)
    (reactor : Reactor queueDepth traceDepth timerCount) (world : World) : List TraceEntry :=
  if reactor.core.admits event agent then
    let ((answer, after), later) := reactor.play (Machine.handle event agent) world
    playAccount (Machine.handle event agent) reactor world ++
      match answer with
      | (.stay, _) => []
      | (.moveTo state, agent) => transitionAccount state agent after later
  else []

theorem play_notify (event : Event) (agent : Agent Body)
    (reactor : Reactor queueDepth traceDepth timerCount) (world : World) :
    reactor.play (agent.notify event) world =
      (((reactor.play (Machine.handle event agent) world).1.1.2,
          (reactor.play (Machine.handle event agent) world).1.2),
        (reactor.play (Machine.handle event agent) world).2) := by
  rw [Agent.notify, play_bind]
  rfl

theorem playAccount_notify (event : Event) (agent : Agent Body)
    (reactor : Reactor queueDepth traceDepth timerCount) (world : World) :
    playAccount (agent.notify event) reactor world =
      playAccount (Machine.handle event agent) reactor world := by
  rw [Agent.notify, playAccount_bind]
  exact List.append_nil _

theorem playAccount_moveTo (state : UInt8) (agent : Agent Body)
    (reactor : Reactor queueDepth traceDepth timerCount) (world : World) :
    playAccount (agent.moveTo state) reactor world =
      transitionAccount state agent reactor world := by
  rw [Agent.moveTo, playAccount_bind, playAccount_notify, play_notify, playAccount_bind,
    playAccount_bind, playAccount_notify]
  exact (List.append_assoc _ _ _).symm

theorem playAccount_deliver (event : Event) (agent : Agent Body)
    (reactor : Reactor queueDepth traceDepth timerCount) (world : World) :
    playAccount (agent.deliver event) reactor world =
      playAccount (Machine.handle event agent) reactor world ++
        let played := reactor.play (Machine.handle event agent) world
        match played.1.1 with
        | (.stay, _) => []
        | (.moveTo state, agent) => transitionAccount state agent played.1.2 played.2 := by
  rw [Agent.deliver, playAccount_bind]
  refine congrArg (playAccount (Machine.handle event agent) reactor world ++ ·) ?_
  obtain ⟨⟨⟨transition, after⟩, later⟩, onward⟩ := reactor.play (Machine.handle event agent) world
  cases transition with
  | stay => rfl
  | moveTo state => exact playAccount_moveTo state after later onward

omit [Machine Body] in
/-- Whether an event is held back shows in the journal only. -/
theorem play_admits (event : Event) (agent : Agent Body)
    (reactor : Reactor queueDepth traceDepth timerCount) (world : World) :
    playAccount (agent.admits event) reactor world = [] ∧
      (reactor.play (agent.admits event) world).1 = (reactor.core.admits event agent, reactor) ∧
      (reactor.core.admits event agent = true →
        (reactor.play (agent.admits event) world).2 = world) := by
  have asked : reactor.play (Script.isCurrent event) world =
      ((reactor.timers.isCurrent event, reactor), world) := rfl
  unfold Agent.admits Core.admits
  by_cases timeout : event.id = Event.timerId
  · rw [if_pos timeout, if_pos timeout, playAccount_bind, play_bind, asked]
    show _ ∧ _ = (reactor.timers.isCurrent event, reactor) ∧ _
    cases current : reactor.timers.isCurrent event with
    | true => exact ⟨rfl, rfl, fun _ => rfl⟩
    | false => exact ⟨rfl, rfl, fun wrong => nomatch current.symm.trans wrong⟩
  · rw [if_neg timeout, if_neg timeout]
    exact ⟨rfl, rfl, fun _ => rfl⟩

theorem playAccount_dispatch (event : Event) (agent : Agent Body)
    (reactor : Reactor queueDepth traceDepth timerCount) (world : World) :
    playAccount (agent.dispatch event) reactor world =
      dispatchAccount event agent reactor world := by
  obtain ⟨silent, answer, still⟩ := play_admits event agent reactor world
  rw [Agent.dispatch, playAccount_bind, silent, answer, List.nil_append, dispatchAccount]
  cases admitted : reactor.core.admits event agent with
  | true =>
    rw [still admitted, if_pos rfl, if_pos rfl, playAccount_bind, playAccount_deliver]
    exact List.append_nil _
  | false => rfl

theorem trace_dispatch (event : Event) (agent : Agent Body)
    (reactor : Reactor queueDepth traceDepth timerCount) (world : World) :
    (reactor.play (agent.dispatch event) world).1.2.trace =
      (dispatchAccount event agent reactor world).foldl TraceLog.put reactor.trace := by
  rw [← playAccount_dispatch]
  exact trace_play _ _ _

/-! ### Handing out events -/

/-- What machines give that are offered an event in turn. -/
def offerAccount (event : Event) : List (Agent Body) → Reactor queueDepth traceDepth timerCount →
    World → List TraceEntry
  | [], _, _ => []
  | agent :: rest, reactor, world =>
    dispatchAccount event agent reactor world ++
      offerAccount event rest (reactor.play (agent.dispatch event) world).1.2
        (reactor.play (agent.dispatch event) world).2

/-- What a drain gives: what the machines give that are offered the events. That an event is taken
from the queue gives nothing. -/
def pendingAccount : Nat → List (Agent Body) → Reactor queueDepth traceDepth timerCount → World →
    List TraceEntry
  | 0, _, _, _ => []
  | budget + 1, agents, reactor, world =>
    match reactor.next? with
    | none => []
    | some (event, rest) =>
      offerAccount event agents rest world ++
        pendingAccount budget (rest.offer event agents world).1.1
          (rest.offer event agents world).1.2 (rest.offer event agents world).2

theorem trace_offer (event : Event) (agents : List (Agent Body))
    (reactor : Reactor queueDepth traceDepth timerCount) (world : World) :
    (reactor.offer event agents world).1.2.trace =
      (offerAccount event agents reactor world).foldl TraceLog.put reactor.trace := by
  induction agents generalizing reactor world with
  | nil => rfl
  | cons agent rest inductionHypothesis =>
    have later := inductionHypothesis (reactor.play (agent.dispatch event) world).1.2
      (reactor.play (agent.dispatch event) world).2
    rw [trace_dispatch] at later
    rw [offerAccount, List.foldl_append]
    exact later

theorem trace_next? {event : Event} {reactor rest : Reactor queueDepth traceDepth timerCount}
    (next : reactor.next? = some (event, rest)) : rest.trace = reactor.trace := by
  obtain ⟨_, -, same⟩ := Option.map_eq_some_iff.mp next
  exact (congrArg trace (Prod.mk.inj same).2).symm

theorem trace_runPending (budget : Nat) (agents : List (Agent Body))
    (reactor : Reactor queueDepth traceDepth timerCount) (world : World) :
    (reactor.runPending budget agents world).1.2.2.trace =
      (pendingAccount budget agents reactor world).foldl TraceLog.put reactor.trace := by
  induction budget generalizing agents reactor world with
  | zero => rfl
  | succ budget inductionHypothesis =>
    rw [runPending, pendingAccount]
    cases next : reactor.next? with
    | none => rfl
    | some taken =>
      obtain ⟨event, rest⟩ := taken
      have later := inductionHypothesis (rest.offer event agents world).1.1
        (rest.offer event agents world).1.2 (rest.offer event agents world).2
      rw [trace_offer, trace_next? next] at later
      rw [List.foldl_append]
      exact later

end Machines

end BusNode.Reactor
