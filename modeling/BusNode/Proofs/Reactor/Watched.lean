/-
This file watches machines at work. A watched machine writes down every event that it is given: its
state then, what it asks for meanwhile and how that is answered, and where it wants to go.

Watching changes nothing. A watched machine asks for the same services as the machine itself and
goes to the same states, so a run of watched machines is a run of the machines themselves, with
something written down beside it.
-/
import BusNode.Proofs.Reactor.Faithful

namespace BusNode

/-! ### Transcripts -/

/-- A service that was asked for, with its answer. -/
structure Inquiry where
  service : Service
  answer : service.Answer

namespace Script

variable {α : Type}

/-- The same script, which also gives all that it asked for. -/
def heard : Script α → Script (α × List Inquiry)
  | done result => done (result, [])
  | ask service next => ask service fun answer =>
      (next answer).heard >>= fun heard => done (heard.1, ⟨service, answer⟩ :: heard.2)

theorem map_fst_heard (script : Script α) : Prod.fst <$> script.heard = script := by
  induction script with
  | done result => rfl
  | ask service next inductionHypothesis =>
    refine congrArg (ask service) (funext fun answer => ?_)
    have same := inductionHypothesis answer
    exact (bind_assoc (next answer).heard _ _).trans same

end Script

namespace Reactor

variable {queueDepth traceDepth : Depth} {timerCount : Nat}
variable {World : Type} [Clock World] [Journal World] {α β : Type}

/-- All that is asked for when a script is played. -/
def transcript : Script α → Reactor queueDepth traceDepth timerCount → World → List Inquiry
  | .done _, _, _ => []
  | .ask service next, reactor, world =>
    ⟨service, (reactor.perform service world).1.1⟩ ::
      transcript (next (reactor.perform service world).1.1) (reactor.perform service world).1.2
        (reactor.perform service world).2

theorem transcript_bind (script : Script α) (next : α → Script β)
    (reactor : Reactor queueDepth traceDepth timerCount) (world : World) :
    transcript (script >>= next) reactor world =
      transcript script reactor world ++
        transcript (next (reactor.play script world).1.1) (reactor.play script world).1.2
          (reactor.play script world).2 := by
  induction script generalizing reactor world with
  | done result => rfl
  | ask service rest inductionHypothesis =>
    exact congrArg (⟨service, (reactor.perform service world).1.1⟩ :: ·)
      (inductionHypothesis (reactor.perform service world).1.1
        (reactor.perform service world).1.2 (reactor.perform service world).2)

theorem play_map (change : α → β) (script : Script α)
    (reactor : Reactor queueDepth traceDepth timerCount) (world : World) :
    reactor.play (change <$> script) world =
      (reactor.play script world).map (Prod.map change id) id := by
  rw [← bind_pure_comp, play_bind]
  rfl

/-- What a script gives that is heard is what was asked for. -/
theorem play_heard (script : Script α) (reactor : Reactor queueDepth traceDepth timerCount)
    (world : World) :
    reactor.play script.heard world =
      (reactor.play script world).map
        (Prod.map (fun result => (result, transcript script reactor world)) id) id := by
  induction script generalizing reactor world with
  | done result => rfl
  | ask service next inductionHypothesis =>
    have later := inductionHypothesis (reactor.perform service world).1.1
      (reactor.perform service world).1.2 (reactor.perform service world).2
    refine (play_bind (next (reactor.perform service world).1.1).heard _
      (reactor.perform service world).1.2 (reactor.perform service world).2).trans ?_
    rw [later]
    rfl

theorem transcript_heard (script : Script α) (reactor : Reactor queueDepth traceDepth timerCount)
    (world : World) :
    transcript script.heard reactor world = transcript script reactor world := by
  induction script generalizing reactor world with
  | done result => rfl
  | ask service next inductionHypothesis =>
    have later := inductionHypothesis (reactor.perform service world).1.1
      (reactor.perform service world).1.2 (reactor.perform service world).2
    rw [Script.heard, transcript, transcript, transcript_bind, later]
    exact congrArg (_ :: ·) (List.append_nil _)

end Reactor

/-! ### Watched machines -/

/-- An event that a machine is given. -/
structure Delivery where
  /-- The state of the machine. -/
  state : UInt8
  event : Event
  /-- What the machine asks for. -/
  asked : List Inquiry
  /-- Whether the machine wants to move. -/
  answer : Transition

/-- What a machine keeps, and every event that it was given, the earliest first. -/
structure Watched (Body : Type) where
  body : Body
  log : List Delivery := []

variable {Body : Type}

namespace Agent

/-- The machine, without what was written down. -/
def bare (agent : Agent (Watched Body)) : Agent Body :=
  { context := agent.context, body := agent.body.body }

/-- The machine, with nothing written down yet. -/
def watched (agent : Agent Body) : Agent (Watched Body) :=
  { context := agent.context, body := { body := agent.body } }

/-- The machine, with one more event written down that it was given when it was as `before`. -/
def noting (before : Agent (Watched Body)) (event : Event) (asked : List Inquiry)
    (answer : Transition) (after : Agent Body) : Agent (Watched Body) where
  context := after.context
  body :=
    { body := after.body
      log := before.body.log ++ [{ state := before.context.state, event, asked, answer }] }

end Agent

variable [Machine Body]

instance : Machine (Watched Body) where
  handle event agent := do
    let ((answer, after), asked) ← (Machine.handle event agent.bare).heard
    return (answer, agent.noting event asked answer after)

namespace Agent

/-! ### Watching changes nothing -/

theorem handle_bare (event : Event) (agent : Agent (Watched Body)) :
    Prod.map id bare <$> Machine.handle event agent = Machine.handle event agent.bare := by
  have same := Script.map_fst_heard (Machine.handle event agent.bare)
  rw [← bind_pure_comp] at same ⊢
  refine (bind_assoc _ _ _).trans ?_
  exact same

theorem notify_bare (event : Event) (agent : Agent (Watched Body)) :
    bare <$> agent.notify event = agent.bare.notify event := by
  simp only [notify, ← handle_bare, map_bind, bind_map_left]
  rfl

theorem moveTo_bare (state : UInt8) (agent : Agent (Watched Body)) :
    bare <$> agent.moveTo state = agent.bare.moveTo state := by
  simp only [moveTo, ← notify_bare, map_bind, bind_map_left]
  refine congrArg (agent.notify .exit >>= ·) (funext fun left => ?_)
  exact congrArg (Script.trace (.stateChange left.context.id state) >>= ·) <| funext fun _ =>
    congrArg (Script.note _ >>= ·) (funext fun _ => notify_bare .entry _)

theorem deliver_bare (event : Event) (agent : Agent (Watched Body)) :
    bare <$> agent.deliver event = agent.bare.deliver event := by
  simp only [deliver, ← handle_bare, map_bind, bind_map_left]
  refine congrArg (Machine.handle event agent >>= ·) (funext fun result => ?_)
  obtain ⟨answer, after⟩ := result
  cases answer with
  | stay => rfl
  | moveTo state => exact moveTo_bare state after

theorem dispatch_bare (event : Event) (agent : Agent (Watched Body)) :
    Prod.map id bare <$> agent.dispatch event = agent.bare.dispatch event := by
  simp only [dispatch, ← deliver_bare, map_bind]
  refine congrArg (agent.admits event >>= ·) (funext fun admitted => ?_)
  cases admitted with
  | true =>
    simp only [if_true, map_bind, bind_map_left]
    rfl
  | false => rfl

theorem start_bare (id : UInt8) (agent : Agent (Watched Body)) :
    bare <$> agent.start id = agent.bare.start id := by
  simp only [start, map_bind]
  exact congrArg (Script.note (.machineStarted id) >>= ·) (funext fun _ => notify_bare .entry _)

end Agent

namespace Reactor

variable {queueDepth traceDepth : Depth} {timerCount : Nat}
variable {World : Type} [Clock World] [Journal World]

/-- What a watched machine writes down about an event is what it asks for and what it answers. -/
theorem play_handle_watched (event : Event) (agent : Agent (Watched Body))
    (reactor : Reactor queueDepth traceDepth timerCount) (world : World) :
    let handle := Machine.handle event agent.bare
    reactor.play (Machine.handle event agent) world =
      (reactor.play handle world).map
        (Prod.map (fun result => (result.1,
          agent.noting event (transcript handle reactor world) result.1 result.2)) id) id := by
  intro handle
  refine (play_bind handle.heard _ reactor world).trans ?_
  rw [play_heard]
  rfl

theorem transcript_handle_watched (event : Event) (agent : Agent (Watched Body))
    (reactor : Reactor queueDepth traceDepth timerCount) (world : World) :
    transcript (Machine.handle event agent) reactor world =
      transcript (Machine.handle event agent.bare) reactor world := by
  refine (transcript_bind (Machine.handle event agent.bare).heard _ reactor world).trans ?_
  rw [transcript_heard]
  exact List.append_nil _

theorem play_dispatch_bare (event : Event) (agent : Agent (Watched Body))
    (reactor : Reactor queueDepth traceDepth timerCount) (world : World) :
    reactor.play (agent.bare.dispatch event) world =
      (reactor.play (agent.dispatch event) world).map (Prod.map (Prod.map id Agent.bare) id)
        id := by
  rw [← Agent.dispatch_bare, play_map]

theorem offer_cons {Body : Type} [Machine Body] (event : Event) (agent : Agent Body)
    (rest : List (Agent Body)) (reactor : Reactor queueDepth traceDepth timerCount)
    (world : World) :
    reactor.offer event (agent :: rest) world =
      let played := reactor.play (agent.dispatch event) world
      (played.1.2.offer event rest played.2).map (Prod.map (played.1.1.2 :: ·) id) id := rfl

theorem offer_bare (event : Event) (agents : List (Agent (Watched Body)))
    (reactor : Reactor queueDepth traceDepth timerCount) (world : World) :
    reactor.offer event (agents.map Agent.bare) world =
      (reactor.offer event agents world).map (Prod.map (List.map Agent.bare) id) id := by
  induction agents generalizing reactor world with
  | nil => rfl
  | cons agent rest inductionHypothesis =>
    have later := inductionHypothesis (reactor.play (agent.dispatch event) world).1.2
      (reactor.play (agent.dispatch event) world).2
    rw [List.map_cons, offer_cons, offer_cons, play_dispatch_bare]
    exact congrArg (Prod.map (Prod.map (_ :: ·) id) id) later

theorem runPending_bare (budget : Nat) (agents : List (Agent (Watched Body)))
    (reactor : Reactor queueDepth traceDepth timerCount) (world : World) :
    reactor.runPending budget (agents.map Agent.bare) world =
      (reactor.runPending budget agents world).map
        (Prod.map id (Prod.map (List.map Agent.bare) id)) id := by
  induction budget generalizing agents reactor world with
  | zero => rfl
  | succ budget inductionHypothesis =>
    unfold runPending
    cases reactor.next? with
    | none => rfl
    | some taken =>
      obtain ⟨event, rest⟩ := taken
      have later := inductionHypothesis (rest.offer event agents world).1.1
        (rest.offer event agents world).1.2 (rest.offer event agents world).2
      have offered := offer_bare event agents rest world
      show Prod.map (Prod.map (· + 1) id) id
        (runPending budget (rest.offer event (agents.map Agent.bare) world).1.1
          (rest.offer event (agents.map Agent.bare) world).1.2
          (rest.offer event (agents.map Agent.bare) world).2) = _
      rw [offered]
      exact congrArg (Prod.map (Prod.map (· + 1) id) id) later

/-! ### Runs of watched machines -/

/-- The machines, without what was written down. -/
def Session.bare (session : Session (Watched Body) World queueDepth traceDepth timerCount) :
    Session Body World queueDepth traceDepth timerCount :=
  { session with agents := session.agents.map Agent.bare }

theorem move_bare (session : Session (Watched Body) World queueDepth traceDepth timerCount)
    (move : Move World) : session.bare.move move = (session.move move).bare := by
  cases move with
  | publish | startTimer | stopTimer | tick | meanwhile => rfl
  | drain budget =>
    have drained := runPending_bare budget session.agents session.reactor session.world
    show (_ : Session Body World queueDepth traceDepth timerCount) = _
    simp only [Session.move, Session.bare, drained]
    rfl
  | launch place id =>
    simp only [Session.move, Session.bare, List.getElem?_map]
    cases session.agents[place]? with
    | none => rfl
    | some agent =>
      simp only [Option.map_some, ← Agent.start_bare, play_map]
      exact congrArg (fun agents => Session.mk agents _ _) List.map_set.symm

namespace Ensemble

/-- The machines, without what was written down. -/
def bare (ensemble : Ensemble (Watched Body) World queueDepth traceDepth timerCount) :
    Ensemble Body World queueDepth traceDepth timerCount :=
  { ensemble with agents := fun name => (ensemble.agents name).bare }

/-- The machines, with nothing written down yet. -/
def watched (ensemble : Ensemble Body World queueDepth traceDepth timerCount) :
    Ensemble (Watched Body) World queueDepth traceDepth timerCount :=
  { ensemble with agents := fun name => (ensemble.agents name).watched }

omit [Machine Body] in
theorem lookup_bare (name : Nat) (members : List Nat) (agents : List (Agent (Watched Body))) :
    (members.zip (agents.map Agent.bare)).lookup name =
      ((members.zip agents).lookup name).map Agent.bare := by
  induction members generalizing agents with
  | nil => rfl
  | cons member rest inductionHypothesis =>
    cases agents with
    | nil => rfl
    | cons agent others =>
      rw [List.map_cons, List.zip_cons_cons, List.zip_cons_cons, List.lookup_cons,
        List.lookup_cons, inductionHypothesis]
      cases name == member <;> rfl

theorem bare_act (ensemble : Ensemble (Watched Body) World queueDepth traceDepth timerCount)
    (act : Act World) : ensemble.bare.act act = (ensemble.act act).bare := by
  have lined : ensemble.bare.lineup act.members = (ensemble.lineup act.members).bare := by
    simp [lineup, bare, Session.bare, Function.comp_def]
  rw [Ensemble.act, lined, move_bare]
  simp only [regroup, bare, Session.bare, lookup_bare, Ensemble.act]
  refine congrArg (fun agents => Ensemble.mk agents _ _) (funext fun name => ?_)
  cases ((act.members.zip _).lookup name) <;> rfl

theorem bare_step (ensemble : Ensemble (Watched Body) World queueDepth traceDepth timerCount)
    (deed : Deed World) : ensemble.bare.step deed = (ensemble.step deed).bare := by
  cases deed with
  | act act => exact bare_act ensemble act
  | take =>
    simp only [step, bare]
    cases ensemble.reactor.next? <;> rfl
  | dispatch name event =>
    simp only [step, bare, play_dispatch_bare]
    refine congrArg (fun agents => Ensemble.mk agents _ _) (funext fun other => ?_)
    exact (Function.apply_update (fun _ => Agent.bare) ensemble.agents name _ other).symm
  | read =>
    simp only [step, bare]
    cases ensemble.reactor.trace.read? <;> rfl
  | trace | clear | editMask => rfl

/-- A run of watched machines is a run of the machines themselves. -/
theorem bare_live (ensemble : Ensemble (Watched Body) World queueDepth traceDepth timerCount)
    (deeds : List (Deed World)) : ensemble.bare.live deeds = (ensemble.live deeds).bare := by
  induction deeds generalizing ensemble with
  | nil => rfl
  | cons deed rest inductionHypothesis =>
    rw [live, List.foldl_cons, bare_step]
    exact inductionHypothesis (ensemble.step deed)

end Ensemble

end Reactor

end BusNode
