/-
This file sums a supervisor up in one function. When it is given an event, it becomes another
supervisor and asks for at most one service that the rest of the node can notice: a place in the
queue, ahead of all others, for an event that it sends to itself, or a start of its own timer. Which
of these it is depends on the event, on the supervisor and on the rate of the ticks, and on nothing
else.
-/
import BusNode.Proofs.Reactor.Timeless
import BusNode.Proofs.Supervisor.Standing
import Mathlib.Tactic.SplitIfs

namespace BusNode.Supervisor

open Reactor (Core Happening)

variable {depth : Depth} {count : Nat} {agent : Agent Supervisor} {event : Event}
  {core : Core depth count} {config : Reactor.Config}

/-- What becomes of a supervisor that is given an event, and the service that it asks for. -/
def answer (config : Reactor.Config) (event : Event) (agent : Agent Supervisor) :
    Agent Supervisor × Option Service :=
  if agent.context.state = running then
    if isSign event then (agent, some (.publish .front (.toSelf agent.context.id)))
    else if event.id = Event.selfId then
      (setLight .healthy agent, some (.startTimer agent.body.timer (config.ticksIn patience)))
    else if event.id = Event.timerId ∧ event.p8 = agent.body.timer then
      (setLight .noMaster (inState lost agent), none)
    else (agent, none)
  else if agent.context.state = lost then
    if event.id = Event.entryId then (setLight .noMaster agent, none)
    else if event.id = masterCommsId then
      (inState running agent, some (.publish .front (.toSelf agent.context.id)))
    else (agent, none)
  else (agent, none)

/-! ### A supervisor does what the function says -/

theorem handle_exit (agent : Agent Supervisor) :
    Machine.handle .exit agent = .done (.stay, agent) := by
  by_cases awake : agent.context.state = running
  · rw [handle_running awake]
    rfl
  by_cases listening : agent.context.state = lost
  · rw [handle_lost listening]
    rfl
  · exact handle_elsewhere awake listening

/-- A supervisor that moves only marks that it does before it enters its new state. -/
theorem moveTo_does (state : UInt8) {after : Agent Supervisor} {last : Core depth count}
    {history : List Happening}
    (enters : Core.Does (Agent.notify .entry (inState state agent)) core after last history) :
    Core.Does (agent.moveTo state) core after last history := by
  rw [Agent.moveTo, Agent.notify, handle_exit]
  exact .ask (by simp) (.ask (by simp) enters)

theorem deliver_does_running (here : agent.context.state = running) :
    Core.Does (agent.deliver event) core (answer core.config event agent).1
      (core.obey (answer core.config event agent).2)
      (core.errands (answer core.config event agent).2) := by
  rw [answer, if_pos here, Agent.deliver, handle_running here, handleRunning]
  by_cases sign : isSign event = true
  · rw [if_pos (isSign_iff.mp sign), if_pos sign]
    exact .call (by simp) rfl
  rw [if_neg (mt isSign_iff.mpr sign), if_neg sign]
  by_cases self : event.id = Event.selfId
  · rw [if_pos self, if_pos self]
    exact .ask (by simp) (.call (by simp) rfl)
  rw [if_neg self, if_neg self]
  by_cases timeout : event.id = Event.timerId ∧ event.p8 = agent.body.timer
  · rw [if_pos timeout, if_pos timeout]
    refine moveTo_does lost ?_
    rw [Agent.notify, handle_lost rfl, handleLost,
      if_pos (show Event.entry.id = Event.entryId from rfl)]
    exact .ask (by simp) .done
  · rw [if_neg timeout, if_neg timeout]
    exact .done

theorem deliver_does_lost (here : agent.context.state = lost) :
    Core.Does (agent.deliver event) core (answer core.config event agent).1
      (core.obey (answer core.config event agent).2)
      (core.errands (answer core.config event agent).2) := by
  have asleep : agent.context.state ≠ running := here ▸ running_ne_lost.symm
  rw [answer, if_neg asleep, if_pos here, Agent.deliver, handle_lost here, handleLost]
  by_cases entry : event.id = Event.entryId
  · rw [if_pos entry, if_pos entry]
    exact .ask (by simp) .done
  rw [if_neg entry, if_neg entry]
  by_cases comms : event.id = masterCommsId
  · rw [if_pos comms, if_pos comms]
    refine moveTo_does running ?_
    rw [Agent.notify, handle_running rfl, handleRunning, if_pos (.inl rfl)]
    exact .call (by simp) rfl
  · rw [if_neg comms, if_neg comms]
    exact .done

theorem deliver_does (event : Event) (agent : Agent Supervisor) (core : Core depth count) :
    Core.Does (agent.deliver event) core (answer core.config event agent).1
      (core.obey (answer core.config event agent).2)
      (core.errands (answer core.config event agent).2) := by
  by_cases awake : agent.context.state = running
  · exact deliver_does_running awake
  by_cases listening : agent.context.state = lost
  · exact deliver_does_lost listening
  · rw [answer, if_neg awake, if_neg listening, Agent.deliver, handle_elsewhere awake listening]
    exact .done

/-- What becomes of a supervisor that is offered an event, and the service that it asks for. An
event that is held back from it changes nothing. -/
def reply (core : Core depth count) (event : Event) (agent : Agent Supervisor) :
    Agent Supervisor × Option Service :=
  if core.admits event agent then answer core.config event agent else (agent, none)

theorem dispatch_does (event : Event) (agent : Agent Supervisor) (core : Core depth count) :
    Core.Does (agent.dispatch event) core (core.admits event agent, (reply core event agent).1)
      (core.obey (reply core event agent).2) (core.errands (reply core event agent).2) := by
  rw [reply]
  cases admitted : core.admits event agent with
  | true => exact .dispatch admitted (deliver_does event agent core)
  | false => exact .dispatch_of_not_admits admitted

/-- A supervisor that is put into its first state asks for a place in the queue. -/
theorem start_does (id : UInt8) (agent : Agent Supervisor) (core : Core depth count) :
    Core.Does (agent.start id) core { agent with context := { state := running, id } }
      (core.obey (some (.publish .front (.toSelf id))))
      (core.errands (some (.publish .front (.toSelf id)))) := by
  refine .ask (by simp) ?_
  show Core.Does (Agent.notify .entry { agent with context := { state := 0, id } }) core _ _ _
  rw [Agent.notify, handle_running rfl, handleRunning, if_pos (.inl rfl)]
  exact .call (by simp) rfl

/-! ### What a supervisor keeps and what it asks for -/

/-- A supervisor asks for a place for what it sends to itself, or starts its own timer for as long
as the master may be silent. -/
inductive Asks (config : Reactor.Config) (id timer : UInt8) : Service → Prop where
  | post : Asks config id timer (.publish .front (.toSelf id))
  | rearm : Asks config id timer (.startTimer timer (config.ticksIn patience))

/-- A supervisor keeps its id and its timer. -/
theorem reply_keeps (core : Core depth count) (event : Event) (agent : Agent Supervisor) :
    (reply core event agent).1.context.id = agent.context.id ∧
      (reply core event agent).1.body.timer = agent.body.timer := by
  unfold reply answer
  split_ifs <;> exact ⟨rfl, rfl⟩

theorem reply_asks (core : Core depth count) (event : Event) (agent : Agent Supervisor) :
    ∀ service ∈ (reply core event agent).2,
      Asks core.config agent.context.id agent.body.timer service := by
  unfold reply answer
  split_ifs <;> rintro service ⟨⟩ <;> constructor

end BusNode.Supervisor
