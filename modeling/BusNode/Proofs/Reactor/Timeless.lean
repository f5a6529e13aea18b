/-
This file follows scripts that never ask for the time. What they are answered is settled by the core
of the reactor. So such a script is carried out in one way from a given core: what it ends in, the
core after it and everything that happens on the way are the same in every world.
-/
import BusNode.Proofs.Reactor.History

namespace BusNode.Reactor

variable {depth traceDepth : Depth} {count : Nat} {α β : Type}

namespace Core

/-! ### Services that are asked for or not -/

/-- The core after a service, if one is asked for. -/
def obey (asked : Option Service) (core : Core depth count) : Core depth count :=
  asked.elim core fun service => (core.perform 0 service).2

/-- What happens with a service, if one is asked for. -/
def errands (asked : Option Service) (core : Core depth count) : List Happening :=
  asked.elim [] core.happenings

/-- No service but the time depends on the time. -/
theorem perform_timeless {service : Service} (timeless : service ≠ .now) (now : UInt32)
    (core : Core depth count) : core.perform now service = core.perform 0 service := by
  cases service with
  | now => exact absurd rfl timeless
  | publish | trace | startTimer | stopTimer | ticksLeft | isCurrent | ticksIn | note => rfl

/-! ### Scripts -/

/-- How a script is carried out that never asks for the time: what it ends in, the core after it and
what happens on the way. -/
inductive Does : Script α → Core depth count → α → Core depth count → List Happening → Prop where
  | done {result : α} {core : Core depth count} : Does (.done result) core result core []
  | ask {service : Service} {next : service.Answer → Script α} {core last : Core depth count}
      {result : α} {history : List Happening} (timeless : service ≠ .now)
      (rest : Does (next (core.perform 0 service).1) (core.perform 0 service).2 result last
        history) :
      Does (.ask service next) core result last (core.happenings service ++ history)

namespace Does

variable {core between last : Core depth count} {script : Script α} {next : α → Script β}
  {middle result : α} {first second history : List Happening}

/-- A script that is over with the answer to its only service. -/
theorem call {service : Service} {next : service.Answer → Script α} (timeless : service ≠ .now)
    (ends : next (core.perform 0 service).1 = .done result) :
    Does (.ask service next) core result (core.obey (some service))
      (core.errands (some service)) := by
  have rest : Does (next (core.perform 0 service).1) (core.perform 0 service).2 result
      (core.perform 0 service).2 [] := ends ▸ .done
  have asked := Does.ask timeless rest
  rwa [List.append_nil] at asked

theorem bind {outcome : β} (before : Does script core middle between first)
    (after : Does (next middle) between outcome last second) :
    Does (script >>= next) core outcome last (first ++ second) := by
  induction before with
  | done => exact after
  | ask timeless _ inductionHypothesis =>
    rw [List.append_assoc]
    exact .ask timeless (inductionHypothesis after)

/-- Every reactor with the same core plays such a script alike. -/
theorem play {World : Type} [Clock World] [Journal World]
    (does : Does script core result last history) (reactor : Reactor depth traceDepth count)
    (world : World) (same : reactor.core = core) :
    (reactor.play script world).1.1 = result ∧ (reactor.play script world).1.2.core = last ∧
      playHistory script reactor world = history := by
  induction does generalizing reactor world with
  | done => exact ⟨rfl, same, rfl⟩
  | @ask service next core last result history timeless _ inductionHypothesis =>
    obtain ⟨now, acts⟩ := core_perform service reactor world
    rw [perform_timeless timeless, same] at acts
    have answer : (reactor.perform service world).1.1 = (core.perform 0 service).1 :=
      congrArg Prod.fst acts
    obtain ⟨ends, after, happens⟩ := inductionHypothesis (reactor.perform service world).1.2
      (reactor.perform service world).2 (congrArg Prod.snd acts)
    rw [← answer] at ends after happens
    refine ⟨ends, after, ?_⟩
    rw [playHistory, happens, same]

end Does

/-! ### Machines -/

section Machines

variable {Body : Type} {event : Event} {agent after : Agent Body}
  {core last : Core depth count} {history : List Happening}

theorem Does.admits (event : Event) (agent : Agent Body) (core : Core depth count) :
    Does (agent.admits event) core (core.admits event agent) core [] := by
  unfold Agent.admits Core.admits
  split
  · refine Does.ask nofun ?_
    show Does (if core.timers.isCurrent event = true then _ else _) core _ core []
    cases core.timers.isCurrent event with
    | true => exact .done
    | false => exact .ask nofun .done
  · exact .done

variable [Machine Body]

/-- A machine that may be given an event is given it. -/
theorem Does.dispatch (admitted : core.admits event agent = true)
    (delivers : Does (agent.deliver event) core after last history) :
    Does (agent.dispatch event) core (true, after) last history := by
  have given : Does (do return (true, ← agent.deliver event)) core (true, after) last
      (history ++ []) := delivers.bind .done
  rw [List.append_nil] at given
  refine (Does.admits event agent core).bind ?_
  rw [admitted]
  exact given

/-- A machine that may not be given an event does nothing. -/
theorem Does.dispatch_of_not_admits (refused : core.admits event agent = false) :
    Does (agent.dispatch event) core (false, agent) core [] := by
  refine (Does.admits event agent core).bind ?_
  rw [refused]
  exact .done

end Machines

end Core

end BusNode.Reactor
