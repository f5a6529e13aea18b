/-
This file proves that every wait for a reply has exactly one outcome. A history says by itself
whether a reply is awaited: a wait begins with a note and ends with the first report of a reply
after it. The link agrees with its history, gives reports of replies only while the history awaits
one, and begins no wait while it does. So the beginnings and the ends of waits alternate, and their
numbers differ by the wait that is outstanding.
-/
import BusNode.Proofs.Link.Tally

namespace BusNode

/-! ### Waits in a history -/

/-- Whether an effect is the beginning of a wait. -/
def Effect.arms : Effect → Bool
  | .note .waitArmed => true
  | _ => false

/-- Whether an effect reports the end of a wait. -/
def Effect.replies (effect : Effect) : Bool := effect.outcome?.any Link.Outcome.isReply

/-- Whether an effect hands bytes to the line. -/
def Effect.writes : Effect → Bool
  | .write _ _ => true
  | _ => false

/-- Whether a reply is awaited after an effect, if it was or was not before. -/
def Effect.wait (waiting : Bool) (effect : Effect) : Bool :=
  effect.arms || (waiting && !effect.replies)

namespace Link

/-- Whether a reply is awaited after a history. -/
def awaiting (history : List Effect) : Bool := history.foldl Effect.wait false

/-- How many waits a history begins. -/
def armings (history : List Effect) : Nat := history.countP Effect.arms

/-- How many waits a history ends. -/
def endings (history : List Effect) : Nat :=
  reported .replyAccepted history + reported .replyRefused history +
    reported .replyTimedOut history

/-- A reply is reported only while one is awaited, and a wait begins only while none is. -/
def InTurn (waiting : Bool) (effect : Effect) : Prop :=
  (effect.replies = true → waiting = true) ∧ (effect.arms = true → waiting = false)

@[simp] theorem awaiting_append (past effects : List Effect) :
    awaiting (past ++ effects) = effects.foldl Effect.wait (awaiting past) :=
  List.foldl_append

@[simp] theorem armings_append (past effects : List Effect) :
    armings (past ++ effects) = armings past + armings effects :=
  List.countP_append

theorem armings_cons (effect : Effect) (rest : List Effect) :
    armings (effect :: rest) = armings rest + effect.arms.toNat := by
  cases arms : effect.arms <;> simp [armings, arms]

@[simp] theorem endings_append (past effects : List Effect) :
    endings (past ++ effects) = endings past + endings effects := by
  unfold endings
  simp only [reported_append]
  omega

theorem endings_cons (effect : Effect) (rest : List Effect) :
    endings (effect :: rest) = endings rest + effect.replies.toNat := by
  unfold endings
  rw [reported_cons, reported_cons, reported_cons]
  cases effect with
  | report given =>
    cases outcome : given.outcome <;>
      simp [Effect.reports, Effect.replies, Effect.outcome?, outcome, Outcome.kind,
        Outcome.isReply] <;> omega
  | _ => simp [Effect.reports, Effect.replies, Effect.outcome?]

/-- Where waits begin and end in turn, as many end as begin, but for those that are outstanding. -/
theorem armings_add_eq_endings_add {waiting : Bool} {history : List Effect}
    (inTurn : Guarded Effect.wait InTurn waiting history) :
    armings history + waiting.toNat =
      endings history + (history.foldl Effect.wait waiting).toNat := by
  induction history generalizing waiting with
  | nil => rfl
  | cons effect rest inductionHypothesis =>
    obtain ⟨⟨ends, begins⟩, inTurn⟩ := inTurn
    have balance := inductionHypothesis inTurn
    rw [endings_cons, armings_cons, List.foldl_cons]
    have turned : effect.arms.toNat + waiting.toNat =
        effect.replies.toNat + (Effect.wait waiting effect).toNat := by
      cases arms : effect.arms <;> cases replies : effect.replies <;>
        simp_all [Effect.wait]
    omega

/-! ### Effects that are neither -/

theorem arms_of_aside {effect : Effect} (aside : effect.aside = true) : effect.arms = false := by
  cases effect with
  | note notice => cases notice <;> first | rfl | cases aside
  | _ => rfl

theorem replies_of_aside {effect : Effect} (aside : effect.aside = true) :
    effect.replies = false := by
  cases effect with
  | report given => cases aside
  | _ => rfl

theorem wait_of_aside {effect : Effect} (waiting : Bool) (aside : effect.aside = true) :
    Effect.wait waiting effect = waiting := by
  simp [Effect.wait, arms_of_aside aside, replies_of_aside aside]

theorem inTurn_of_aside {effects : List Effect} (waiting : Bool)
    (aside : ∀ effect ∈ effects, effect.aside = true) :
    Guarded Effect.wait InTurn waiting effects := by
  refine guarded_of_still (fun effect member => wait_of_aside _ (aside effect member)) ?_
  intro effect member
  simp [InTurn, arms_of_aside (aside effect member), replies_of_aside (aside effect member)]

theorem foldl_wait_of_aside {effects : List Effect} (waiting : Bool)
    (aside : ∀ effect ∈ effects, effect.aside = true) :
    effects.foldl Effect.wait waiting = waiting :=
  foldl_of_still fun effect member => wait_of_aside _ (aside effect member)

/-! ### A link agrees with its history -/

/-- A link and its history agree on whether a reply is awaited and on the number of reports of each
kind, up to the wrap of the counters, and waits have begun and ended in turn. -/
structure Accounted (link : Link) (past : List Effect) : Prop where
  waiting : awaiting past = link.isBusy
  inTurn : Guarded Effect.wait InTurn false past
  tallied : ∀ kind, link.stats.tally kind = UInt32.ofNat (reported kind past)

namespace Accounted

variable {link next : Link} {past effects : List Effect}

theorem append (held : Accounted link past)
    (waiting : effects.foldl Effect.wait link.isBusy = next.isBusy)
    (inTurn : Guarded Effect.wait InTurn link.isBusy effects)
    (tallied : ∀ kind, next.stats.tally kind =
      link.stats.tally kind + UInt32.ofNat (reported kind effects)) :
    Accounted next (past ++ effects) where
  waiting := by rw [awaiting_append, held.waiting, waiting]
  inTurn := by
    rw [guarded_append]
    exact ⟨held.inTurn, by rw [← held.waiting] at inTurn; exact inTurn⟩
  tallied kind := by
    rw [tallied kind, held.tallied kind, reported_append, UInt32.ofNat_add]

theorem quiet (held : Accounted link past) (quiet : Quiet link effects next) :
    Accounted next (past ++ effects) := by
  refine held.append ?_ (inTurn_of_aside _ quiet.aside) fun kind => ?_
  · rw [foldl_wait_of_aside _ quiet.aside, isBusy, isBusy, quiet.waiting]
  · rw [quiet.tally, reported_of_aside kind quiet.aside]
    simp

/-- A report ends the wait if there is one, since it is that of a reply exactly then. -/
theorem report {report : Report} (held : Accounted link past)
    (reported : Reported link report next) : Accounted next (past ++ [.report report]) := by
  refine held.append ?_ ?_ fun kind => ?_
  · rw [reported.free, ← reported.turn]
    simp [Effect.wait, Effect.arms, Effect.replies, Effect.outcome?]
  · rw [← reported.turn, guarded_cons]
    refine ⟨⟨id, ?_⟩, trivial⟩
    intro arms
    cases arms
  · rw [reported.tally kind, reported_cons, reported_nil, Nat.zero_add]
    by_cases same : report.outcome.kind = kind <;> simp [Effect.reports, Effect.outcome?, same]

theorem armed (held : Accounted link past) (free : link.isBusy = false)
    (armed : Armed link effects next) : Accounted next (past ++ effects) := by
  cases armed with
  | awaited now _ =>
    refine held.append rfl ?_ fun kind => ?_
    · simp [free, InTurn, Effect.replies, Effect.outcome?, Effect.wait, Effect.arms]
    · simp [Effect.reports, Effect.outcome?]
  | unawaited _ => exact held.quiet ⟨by simp, rfl, fun _ => rfl⟩

theorem watched : Watched Accounted where
  quiet held quiet _ := held.quiet quiet
  report held reported := held.report reported
  armed held _ free armed := held.armed free armed

end Accounted

/-! ### Turns -/

theorem Serviced.passive {link next : Link} {effects : List Effect}
    (serviced : Serviced link effects next) :
    ∀ effect ∈ effects, effect.arms = false ∧ effect.writes = false := by
  obtain ⟨deadline, silence, reception⟩ := serviced
  rw [List.forall_mem_append, List.forall_mem_append]
  refine ⟨⟨?_, ?_⟩, ?_⟩
  · cases deadline <;> simp [Effect.arms, Effect.writes]
  · cases silence with
    | frame =>
      simp only [dispatchEffects, dispatchNotes, List.forall_mem_append,
        Effect.forall_mem_noteIf]
      simp [Effect.arms, Effect.writes]
    | _ => simp [Effect.arms, Effect.writes]
  · cases reception with
    | byte =>
      simp only [List.forall_mem_append, Effect.forall_mem_noteIf]
      simp [Effect.arms, Effect.writes]
    | _ => simp [Effect.arms, Effect.writes]

/-- Bytes are handed to the line only while no reply is awaited. -/
def WritesWhileFree (waiting : Bool) (effect : Effect) : Prop :=
  effect.writes = true → waiting = false

theorem writesWhileFree_of_aside {effects : List Effect}
    (aside : ∀ effect ∈ effects, effect.aside = true) :
    Guarded Effect.wait WritesWhileFree false effects :=
  guarded_of_still (fun effect member => wait_of_aside _ (aside effect member)) fun _ _ _ => rfl

theorem Step.writesWhileFree {link next : Link} {effects : List Effect}
    (step : Step link effects next) : Guarded Effect.wait WritesWhileFree link.isBusy effects := by
  cases step with
  | serviced serviced =>
    refine guarded_of_always fun effect member waiting writes => ?_
    exact absurd writes (by simp [(serviced.passive effect member).2])
  | built frame =>
    unfold builtEffects
    cases frame.functionCode? with
    | none => trivial
    | some code => simp [WritesWhileFree, Effect.writes]
  | configured _ _ _ => trivial
  | refused _ _ => trivial
  | delivered free _ transmission =>
    rw [free]
    exact writesWhileFree_of_aside transmission.quiet.aside
  | requested free _ transmission armed =>
    rw [free, guarded_append, foldl_wait_of_aside _ transmission.quiet.aside]
    refine ⟨writesWhileFree_of_aside transmission.quiet.aside, ?_⟩
    cases armed with
    | awaited now _ => simp [WritesWhileFree, Effect.writes]
    | unawaited _ => trivial

theorem Steps.writesWhileFree {link next : Link} {past effects : List Effect}
    (steps : Steps link effects next) (held : Accounted link past) :
    Guarded Effect.wait WritesWhileFree link.isBusy effects := by
  induction steps generalizing past with
  | done => trivial
  | @step link middle next effects later step rest inductionHypothesis =>
    have after : Accounted middle (past ++ effects) := Accounted.watched.kept.step held step
    have state : effects.foldl Effect.wait link.isBusy = middle.isBusy := by
      rw [← held.waiting, ← awaiting_append, after.waiting]
    rw [guarded_append, state]
    exact ⟨step.writesWhileFree, inductionHypothesis after⟩

/-- Whether a call sent the request of a master and left the link waiting for the reply. -/
def Turn.arms (turn : Turn) : Bool :=
  turn.call.request?.isSome && turn.answer = .done && turn.link.isBusy

theorem armings_of_passive {effects : List Effect}
    (passive : ∀ effect ∈ effects, effect.arms = false) : armings effects = 0 :=
  List.countP_eq_zero.mpr fun effect member => by simp [passive effect member]

theorem armings_of_aside {effects : List Effect}
    (aside : ∀ effect ∈ effects, effect.aside = true) : armings effects = 0 :=
  armings_of_passive fun effect member => arms_of_aside (aside effect member)

theorem Serviced.armings {link next : Link} {effects : List Effect}
    (serviced : Serviced link effects next) : armings effects = 0 :=
  armings_of_passive fun effect member => (serviced.passive effect member).1

theorem Pumped.armings {link next : Link} {effects : List Effect}
    (pumped : Pumped link effects next) : armings effects = 0 := by
  induction pumped with
  | done => rfl
  | step _ serviced _ inductionHypothesis =>
    rw [armings_append, serviced.armings, inductionHypothesis]

theorem Delivery.armings {frame : List UInt8} {link next : Link} {result : SendResult}
    {effects : List Effect} (delivery : Delivery frame link result effects next) :
    armings effects = 0 := by
  cases delivery with
  | waiting pumped _ => exact pumped.armings
  | refused pumped _ _ => exact pumped.armings
  | failed pumped _ _ transmission | sent pumped _ _ transmission =>
    rw [armings_append, pumped.armings, armings_of_aside transmission.quiet.aside]

/-- A send that comes back leaves no reply awaited. -/
theorem Delivery.free_of_returned {frame : List UInt8} {link next : Link} {result : SendResult}
    {effects : List Effect} (delivery : Delivery frame link result effects next)
    (returned : result ≠ .waiting) : next.isBusy = false := by
  cases delivery with
  | waiting _ _ => exact absurd rfl returned
  | refused _ free load =>
    rw [isBusy, (load_quiet load).waiting]
    exact free
  | failed _ free load transmission | sent _ free load transmission =>
    rw [isBusy, transmission.quiet.waiting, (load_quiet load).waiting]
    exact free

/-- A frame goes out only while no reply is awaited, and leaves it so. -/
theorem Delivery.free {frame : List UInt8} {link next : Link} {effects : List Effect}
    (delivery : Delivery frame link .sent effects next) : next.isBusy = false :=
  delivery.free_of_returned SendResult.noConfusion

theorem Requested.armings {frame : List UInt8} {link next : Link} {result : SendResult}
    {effects : List Effect} (requested : Requested frame link result effects next) :
    armings effects = (result = .sent && next.isBusy : Bool).toNat := by
  cases requested with
  | unfit _ => rfl
  | unsent _ delivery unsent => simp [delivery.armings, unsent]
  | sent _ delivery armed =>
    rw [armings_append, delivery.armings]
    cases armed with
    | awaited now _ => rfl
    | unawaited _ => simp [delivery.free, Link.armings]

theorem Performed.armings {link next : Link} {call : Call} {answer : Answer}
    {effects : List Effect} (performed : Performed link call answer effects next) :
    armings effects = (Turn.arms ⟨call, answer, effects, next⟩).toNat := by
  cases performed with
  | service serviced => exact serviced.armings
  | sendRaw transmission => exact armings_of_aside transmission.quiet.aside
  | slaveSend delivery => exact delivery.armings
  | @masterSend _ _ result _ _ requested =>
    rw [requested.armings]
    cases result <;> simp [Turn.arms, Call.request?, Answer.ofSend]
  | @named _ _ _ result _ _ named asked =>
    cases asked with
    | malformed error => simp [Turn.arms, Answer.ofSend, Link.armings]
    | @built frame _ effects _ requested =>
      rw [armings_append, armings_of_aside (builtEffects_quiet frame link).aside,
        requested.armings]
      cases result <;> simp [Turn.arms, Call.request?_of_named named, Answer.ofSend]
  | setSlaveId _ => rfl
  | keepSlaveId _ => rfl
  | setPacketLogging => rfl

/-! ### One outcome for every wait -/

/-- What it means that every wait of a session has one outcome, but for the one that is
outstanding. -/
structure OneOutcomePerWait {World : Type} (session : Session World) : Prop where
  /-- Waits begin in the calls that send the request of a master and leave the link waiting. -/
  armed : armings session.history = session.turns.countP Turn.arms
  /-- The link is busy when its history awaits a reply. -/
  busy : session.link.isBusy = awaiting session.history
  /-- All waits but the outstanding one have ended. -/
  balance : armings session.history = endings session.history + session.link.isBusy.toNat
  /-- The counters say the same, as long as none of them has wrapped. -/
  counted :
    (∀ kind ∈ [Outcome.Kind.replyAccepted, .replyRefused, .replyTimedOut],
      reported kind session.history < UInt32.size) →
    armings session.history =
      session.link.stats.repliesAccepted.toNat + session.link.stats.repliesRefused.toNat +
        session.link.stats.repliesTimedOut.toNat + session.link.isBusy.toNat
  /-- The outcome of a reply is reported only while a reply is awaited. -/
  awaited : ∀ before report after, session.history = before ++ .report report :: after →
    report.outcome.isReply = true → awaiting before = true
  /-- Between the beginnings of two waits there is one report of the outcome of a reply. -/
  between : ∀ before wait after,
    session.history = before ++ .note .waitArmed :: (wait ++ .note .waitArmed :: after) →
      armings wait = 0 → endings wait = 1
  /-- After the beginning of the last wait there is one, unless the link is still waiting. -/
  last : ∀ before wait, session.history = before ++ .note .waitArmed :: wait →
    armings wait = 0 → endings wait + session.link.isBusy.toNat = 1
  /-- A call that is not to send raw bytes hands none to the line while a reply is awaited. -/
  unwritten : ∀ before turn after, session.turns = before ++ turn :: after →
    (∀ bytes, turn.call ≠ .sendRaw bytes) →
      ∀ early bytes answer late, turn.effects = early ++ .write bytes answer :: late →
        awaiting (history before ++ early) = false

theorem Accounted.initial (config : Config) : Accounted { config } [] where
  waiting := rfl
  inTurn := trivial
  tallied kind := by cases kind <;> rfl

theorem armings_history {turns : List Turn}
    (counted : ∀ turn ∈ turns, armings turn.effects = turn.arms.toNat) :
    armings (history turns) = turns.countP Turn.arms := by
  induction turns with
  | nil => rfl
  | cons turn rest inductionHypothesis =>
    rw [history_cons, armings_append, counted turn List.mem_cons_self,
      inductionHypothesis fun other member => counted other (List.mem_cons_of_mem _ member),
      List.countP_cons]
    cases turn.arms <;> simp [Nat.add_comm]

/-- A wait that has begun ends in one report before the next one begins. -/
theorem Accounted.endings_of_wait {link : Link} {past before wait after : List Effect}
    (held : Accounted link past) (place : past = before ++ .note .waitArmed :: (wait ++ after))
    (whole : armings wait = 0) :
    1 = endings wait + (awaiting (before ++ .note .waitArmed :: wait)).toNat ∧
      Guarded Effect.wait InTurn (awaiting (before ++ .note .waitArmed :: wait)) after := by
  have inTurn := held.inTurn
  rw [place, guarded_append, guarded_cons, guarded_append] at inTurn
  obtain ⟨-, -, waits, rest⟩ := inTurn
  have balance := armings_add_eq_endings_add waits
  rw [whole, Nat.zero_add] at balance
  rw [awaiting_append]
  exact ⟨balance, rest⟩

/-- However calls on a link follow one another, and whatever its clock, its line and its
application do, every wait for a reply that it begins has one outcome. -/
theorem every_wait_has_one_outcome {World : Type} [Clock World] [Line World] [Journal World]
    [Listener World] (config : Config) (world : World) (moves : List (Move World)) :
    OneOutcomePerWait ((Session.start config world).run moves) := by
  obtain ⟨held, turns⟩ := Accounted.watched.kept.run
    (fun past turn => armings turn.effects = turn.arms.toNat ∧
      ((∀ bytes, turn.call ≠ .sendRaw bytes) →
        Guarded Effect.wait WritesWhileFree (awaiting past) turn.effects))
    config (Accounted.initial config)
    (fun link past turn held performed => ⟨performed.armings, fun cooked => by
      rw [held.waiting]
      exact (performed.steps cooked).writesWhileFree held⟩) world moves
  generalize (Session.start config world).run moves = session at held turns
  have balance : armings session.history =
      endings session.history + session.link.isBusy.toNat := by
    rw [← held.waiting]
    exact armings_add_eq_endings_add held.inTurn
  refine ⟨?_, held.waiting.symm, balance, ?_, ?_, ?_, ?_, ?_⟩
  · refine armings_history fun turn member => ?_
    obtain ⟨before, after, place⟩ := List.append_of_mem member
    exact (turns before turn after place).1
  · intro small
    have tally (kind : Outcome.Kind)
        (member : kind ∈ [Outcome.Kind.replyAccepted, .replyRefused, .replyTimedOut]) :
        (session.link.stats.tally kind).toNat = reported kind session.history := by
      rw [held.tallied kind]
      exact UInt32.toNat_ofNat_of_lt' (small kind member)
    rw [balance, endings, ← tally .replyAccepted (by simp), ← tally .replyRefused (by simp),
      ← tally .replyTimedOut (by simp)]
    rfl
  · intro before report after place reply
    exact (held.inTurn.allowed_at place).1 reply
  · intro before wait after place whole
    obtain ⟨balance, rest⟩ := held.endings_of_wait place whole
    rw [rest.1.2 rfl] at balance
    exact balance.symm
  · intro before wait place whole
    rw [← held.waiting, place]
    exact (held.endings_of_wait (by rw [List.append_nil]; exact place) whole).1.symm
  · intro before turn after place cooked early bytes answer late there
    rw [awaiting_append]
    exact ((turns before turn after place).2 cooked).allowed_at there rfl

end Link

end BusNode
