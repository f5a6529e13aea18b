/-
This file proves which bytes a reply is made of. A link forgets nothing that is pending when it
sends a request, and every frame that ends takes all that is pending. So the frame on which a wait
ends begins with the bytes that were pending when the request went out, and goes on with those that
came in since. It is free of older bytes exactly if none were pending.

Times play no part here. A frame takes what came in since the frame before it, whenever the line
fell silent.
-/
import BusNode.Proofs.Link.Matching
import BusNode.Sim.Bench
import BusNode.Sim.Wire

namespace BusNode

/-! ### Bytes that no frame has taken -/

/-- The bytes that came in and that no frame has taken, after one more effect. -/
def Effect.gather (bytes : List UInt8) (effect : Effect) : List UInt8 :=
  match effect.frame? with
  | some _ => []
  | none => bytes ++ effect.byte?.toList

/-- A frame takes all the bytes that no frame has taken before, up to its capacity. -/
def Effect.TakesAll (bytes : List UInt8) (effect : Effect) : Prop :=
  ∀ frame, effect.frame? = some frame → frame = bytes.take Adu.maxLength

/-- An effect that neither brings a byte in nor shows a frame. -/
def Effect.Plain (effect : Effect) : Prop := effect.frame? = none ∧ effect.byte? = none

theorem Effect.plain_of_incidental {effect : Effect} (incidental : effect.incidental = true) :
    effect.Plain := by
  cases effect with
  | read | report => cases incidental
  | _ => exact ⟨rfl, rfl⟩

theorem Effect.Plain.gather {effect : Effect} (plain : effect.Plain) (bytes : List UInt8) :
    effect.gather bytes = bytes := by
  rw [Effect.gather, plain.1, plain.2]
  exact List.append_nil bytes

theorem Effect.Plain.takesAll {effect : Effect} (plain : effect.Plain) (bytes : List UInt8) :
    effect.TakesAll bytes := by
  intro frame shown
  rw [plain.1] at shown
  cases shown

namespace Link

/-- The bytes of a history that no frame has taken. -/
def unclaimed (history : List Effect) : List UInt8 := history.foldl Effect.gather []

@[simp] theorem unclaimed_append (past effects : List Effect) :
    unclaimed (past ++ effects) = effects.foldl Effect.gather (unclaimed past) :=
  List.foldl_append

/-- While no frame is shown, what comes in is added. -/
theorem foldl_gather_of_frames {effects : List Effect} (bytes : List UInt8)
    (unshown : frames effects = []) :
    effects.foldl Effect.gather bytes = bytes ++ received effects := by
  induction effects generalizing bytes with
  | nil => exact (List.append_nil bytes).symm
  | cons effect rest inductionHypothesis =>
    rw [frames, List.filterMap_eq_nil_iff, List.forall_mem_cons] at unshown
    obtain ⟨first, later⟩ := unshown
    rw [List.foldl_cons, inductionHypothesis _ (List.filterMap_eq_nil_iff.mpr later),
      Effect.gather, first, List.append_assoc]
    cases byte : effect.byte? <;> simp [received, byte]

/-! ### A link holds what no frame has taken -/

/-- A link holds the bytes that no frame of its history has taken, as far as its buffer reaches, and
every frame took all there were. -/
structure Gathers (link : Link) (past : List Effect) : Prop where
  logs : link.inbound.Logs (unclaimed past)
  taken : Guarded Effect.gather Effect.TakesAll [] past

namespace Gathers

variable {link next : Link} {past effects : List Effect}

theorem plain (held : Gathers link past) (plain : ∀ effect ∈ effects, effect.Plain)
    (inbound : next.inbound = link.inbound) : Gathers next (past ++ effects) where
  logs := by
    rw [inbound, unclaimed_append, foldl_of_still fun effect member =>
      (plain effect member).gather _]
    exact held.logs
  taken := (guarded_append _ _ _).mpr ⟨held.taken,
    guarded_of_always fun effect member => (plain effect member).takesAll⟩

theorem incidental (held : Gathers link past)
    (incidental : ∀ effect ∈ effects, effect.incidental = true)
    (inbound : next.inbound = link.inbound) : Gathers next (past ++ effects) :=
  held.plain (fun effect member => Effect.plain_of_incidental (incidental effect member)) inbound

theorem deadline (held : Gathers link past) (deadline : Deadline link effects next) :
    Gathers next (past ++ effects) := by
  cases deadline <;> exact held.plain (by simp [Effect.Plain, Effect.frame?, Effect.byte?]) rfl

/-- A frame that a link classifies is all that it holds. -/
theorem reported (held : Gathers link past) :
    Gathers link.dispatched.cleared
      (past ++ [.report { outcome := link.classify, frame := link.inbound.bytes }]) := by
  have shown : (Effect.report { outcome := link.classify, frame := link.inbound.bytes }).frame? =
      some link.inbound.bytes := if_neg (classify_ne_replyTimedOut link)
  refine ⟨?_, (guarded_append _ _ _).mpr ⟨held.taken, ?_, trivial⟩⟩
  · rw [unclaimed_append, List.foldl_cons, List.foldl_nil, Effect.gather, shown]
    exact FrameBuffer.logs_empty
  · intro frame same
    rw [shown] at same
    rw [← Option.some.inj same]
    exact held.logs.bytes

theorem silence (held : Gathers link past) (silence : Silence link effects next) :
    Gathers next (past ++ effects) := by
  cases silence with
  | idle _ => exact held.plain (by simp) rfl
  | soon _ _ => exact held.plain (by simp [Effect.Plain, Effect.frame?, Effect.byte?]) rfl
  | @blank last now _ _ blank =>
    have noted : Gathers link (past ++ [.micros now, .note .silence]) :=
      held.plain (by simp [Effect.Plain, Effect.frame?, Effect.byte?]) rfl
    refine ⟨?_, noted.taken⟩
    rw [(noted.logs.isEmpty_iff (by decide)).mp blank]
    exact FrameBuffer.logs_empty
  | @frame last now _ _ _ =>
    have asked : Gathers link (past ++ [.micros now, .note .silence]) :=
      held.plain (by simp [Effect.Plain, Effect.frame?, Effect.byte?]) rfl
    have noted : Gathers link (past ++ [.micros now, .note .silence] ++ link.dispatchNotes) :=
      asked.incidental (dispatchNotes_incidental link) rfl
    simpa [dispatchEffects] using noted.reported

theorem reception (held : Gathers link past) (reception : Reception link effects next) :
    Gathers next (past ++ effects) := by
  cases reception with
  | nothing | failed error =>
    exact held.plain (by simp [Effect.Plain, Effect.frame?, Effect.byte?]) rfl
  | byte byte now =>
    have read : Gathers (link.stored byte now) (past ++ [.read (.ok (some byte))]) := by
      have frameless : Effect.TakesAll (unclaimed past) (.read (.ok (some byte))) := by
        intro frame shown
        cases shown
      refine ⟨?_, (guarded_append _ _ _).mpr ⟨held.taken, frameless, trivial⟩⟩
      rw [unclaimed_append]
      exact held.logs.write [byte]
    rw [List.append_assoc, ← List.append_assoc]
    refine read.plain ?_ rfl
    rw [List.forall_mem_append, Effect.forall_mem_noteIf]
    exact ⟨fun _ => ⟨rfl, rfl⟩, by simp [Effect.Plain, Effect.frame?, Effect.byte?]⟩

theorem armed (held : Gathers link past) (armed : Armed link effects next) :
    Gathers next (past ++ effects) := by
  cases armed <;> exact held.plain (by simp [Effect.Plain, Effect.frame?, Effect.byte?]) rfl

theorem transmission {loaded : Link} {frame bytes : List UInt8}
    {loading result : Except Error Unit} (held : Gathers link past)
    (load : link.load frame = (loading, loaded))
    (transmission : Transmission bytes loaded result effects next) :
    Gathers next (past ++ effects) := by
  refine held.incidental transmission.incidental ?_
  rw [load_eq load] at transmission
  cases transmission <;> rfl

theorem kept : Kept Gathers where
  step held step := by
    cases step with
    | serviced serviced =>
      obtain ⟨deadline, silence, reception⟩ := serviced
      rw [← List.append_assoc, ← List.append_assoc]
      exact ((held.deadline deadline).silence silence).reception reception
    | built frame => exact held.incidental (builtEffects_incidental frame) rfl
    | configured _ _ _ => exact held.plain (by simp) rfl
    | refused _ load => exact held.plain (by simp) (by rw [load_eq load])
    | delivered _ load transmission => exact held.transmission load transmission
    | requested _ load transmission armed =>
      rw [← List.append_assoc]
      exact (held.transmission load transmission).armed armed
  raw held transmission := by
    refine held.incidental transmission.incidental ?_
    cases transmission <;> rfl

theorem initial (config : Config) : Gathers { config } [] := ⟨FrameBuffer.logs_empty, trivial⟩

end Gathers

/-! ### Reports during a wait -/

/-- While a reply is awaited every report is that of a reply, and otherwise none is. -/
def InKind (waiting : Bool) (effect : Effect) : Prop :=
  ∀ report, effect = .report report → report.outcome.isReply = waiting

theorem inKind_of_aside {effect : Effect} (aside : effect.aside = true) (waiting : Bool) :
    InKind waiting effect := by
  rintro report rfl
  cases aside

/-- A link agrees with its history on whether a reply is awaited, and all reports were of the kind
that this calls for. -/
structure Classed (link : Link) (past : List Effect) : Prop where
  accounted : Accounted link past
  inKind : Guarded Effect.wait InKind false past

theorem Classed.watched : Watched Classed where
  quiet held quiet _ := ⟨held.accounted.quiet quiet, (guarded_append _ _ _).mpr ⟨held.inKind,
    guarded_of_always fun effect member => inKind_of_aside (quiet.aside effect member)⟩⟩
  report {link next past report} held reported := by
    refine ⟨held.accounted.report reported, (guarded_append _ _ _).mpr ⟨held.inKind, ?_, trivial⟩⟩
    rintro given ⟨⟩
    have waits : past.foldl Effect.wait false = link.isBusy := held.accounted.waiting
    rw [reported.turn, waits]
  armed {loaded link next past sending effects} held _ free armed := by
    refine ⟨held.accounted.armed free armed, (guarded_append _ _ _).mpr ⟨held.inKind, ?_⟩⟩
    cases armed with
    | awaited now _ => exact ⟨fun _ same => (nomatch same), fun _ same => (nomatch same), trivial⟩
    | unawaited _ => trivial

theorem Classed.initial (config : Config) : Classed { config } [] :=
  ⟨Accounted.initial config, trivial⟩

/-- No frame is shown while a reply is awaited, unless it ends the wait. -/
theorem frames_of_awaited {effects : List Effect} (inKind : Guarded Effect.wait InKind true effects)
    (unended : endings effects = 0) : frames effects = [] := by
  induction effects with
  | nil => rfl
  | cons effect rest inductionHypothesis =>
    rw [endings_cons] at unended
    have unreplied : effect.replies = false := by
      cases replies : effect.replies with
      | false => rfl
      | true => simp [replies] at unended
    have unshown : effect.frame? = none := by
      cases effect with
      | report given =>
        have reply := inKind.1 given rfl
        simp [Effect.replies, Effect.outcome?, reply] at unreplied
      | _ => rfl
    have waits : Effect.wait true effect = true := by simp [Effect.wait, unreplied]
    have later : Guarded Effect.wait InKind true rest := by
      have rest := inKind.2
      rwa [waits] at rest
    rw [frames, List.filterMap_cons_none unshown]
    exact inductionHypothesis later (by omega)

/-! ### What happens after a request went out -/

theorem received_of_plain {effects : List Effect} (plain : ∀ effect ∈ effects, effect.Plain) :
    received effects = [] :=
  List.filterMap_eq_nil_iff.mpr fun effect member => (plain effect member).2

theorem frames_of_plain {effects : List Effect} (plain : ∀ effect ∈ effects, effect.Plain) :
    frames effects = [] :=
  List.filterMap_eq_nil_iff.mpr fun effect member => (plain effect member).1

theorem Armed.plain {link next : Link} {effects : List Effect} (armed : Armed link effects next) :
    ∀ effect ∈ effects, effect.Plain := by
  cases armed <;> simp [Effect.Plain, Effect.frame?, Effect.byte?]

/-- When a request has gone out, nothing comes in and no frame ends before the wait begins. -/
theorem Requested.transmits {frame : List UInt8} {link next : Link} {effects : List Effect}
    (requested : Requested frame link .sent effects next) :
    ∃ early late, effects = early ++ .write next.outbound.bytes (.ok ()) :: late ∧
      ∀ effect ∈ late, effect.Plain := by
  have outbound := requested.emitted.2
  cases requested with
  | unsent _ _ unsent => exact absurd rfl unsent
  | @sent middle _ _ later _ delivery armed =>
    cases delivery with
    | @sent idle loaded _ before sending pumped _ load transmission =>
      have bytes : loaded.outbound.bytes = next.outbound.bytes :=
        (load_ok load).2.trans outbound.symm
      have incidental := transmission.incidental
      cases transmission with
      | sent occupation =>
        rw [occupation.of_ok, bytes] at incidental ⊢
        generalize Effect.noteIf _ _ = notes at incidental ⊢
        refine ⟨before ++ [.drive true (.ok ())],
          .flush (.ok ()) :: .drive false (.ok ()) :: notes ++ later, by simp, ?_⟩
        refine List.forall_mem_append.mpr ⟨fun effect member => ?_, armed.plain⟩
        exact Effect.plain_of_incidental (incidental effect (List.mem_cons_of_mem _
          (List.mem_cons_of_mem _ member)))

/-- What every turn keeps to that follows a given history. -/
structure Sends (past : List Effect) (turn : Turn) : Prop where
  gathers : Gathers turn.link (past ++ turn.effects)
  waits : awaiting (past ++ turn.effects) = turn.link.isBusy
  still : turn.arms = true → ∃ early late,
    turn.effects = early ++ .write turn.link.outbound.bytes (.ok ()) :: late ∧
      ∀ effect ∈ late, effect.Plain

theorem Performed.sends {link : Link} {past : List Effect} {turn : Turn}
    (performed : Performed link turn.call turn.answer turn.effects turn.link)
    (gathers : Gathers link past) (classed : Classed link past) : Sends past turn where
  gathers := Gathers.kept.performed performed gathers
  waits := (Classed.watched.kept.performed performed classed).accounted.waiting
  still arms := by
    obtain ⟨frame, notes, later, -, same, -, requested, -⟩ := performed.requested arms
    obtain ⟨early, late, rfl, plain⟩ := requested.transmits
    exact ⟨notes ++ early, late, by rw [same, List.append_assoc], plain⟩

/-! ### Every reply begins with what was pending -/

/-- In a session a turn begins a wait, and a frame that is reported after some more effects ends
it. -/
structure FrameEnds {World : Type} (session : Session World) (turn : Turn) (since : List Effect)
    (report : Report) : Prop where
  place : ∃ before later late, session.turns = before ++ turn :: later ∧
    history later = since ++ .report report :: late
  arms : turn.arms = true
  unended : endings since = 0
  reply : report.outcome.isReply = true
  framed : report.outcome ≠ .replyTimedOut

/-- What it means that every frame on which a wait of a session ends is what was pending when the
request went out, and what came in since. -/
structure RepliesExtendPending {World : Type} (session : Session World) : Prop where
  /-- What is pending after a call that begins a wait was pending when the request went out: in
  between nothing comes in, and no frame ends. -/
  pending : ∀ turn ∈ session.turns, turn.arms = true → ∃ early late,
    turn.effects = early ++ .write turn.link.outbound.bytes (.ok ()) :: late ∧
      received late = [] ∧ frames late = []
  /-- The frame on which the wait ends, as far as a frame reaches. -/
  reply : ∀ turn since report, FrameEnds session turn since report →
    report.frame = (turn.link.inbound.bytes ++ received since).take Adu.maxLength
  /-- All bytes that were pending are in it. -/
  older : ∀ turn since report, FrameEnds session turn since report →
    turn.link.inbound.bytes <+: report.frame
  /-- If none were pending, it is made of bytes that came in since. -/
  fresh : ∀ turn since report, FrameEnds session turn since report →
    turn.link.inbound.bytes = [] → report.frame = (received since).take Adu.maxLength

theorem take_append_of_take {first : List UInt8} (rest : List UInt8) (length : Nat) :
    (first.take length ++ rest).take length = (first ++ rest).take length := by
  rw [List.take_append, List.take_append, List.take_take, Nat.min_self, List.length_take]
  congr 2
  omega

/-- However calls on a link follow one another, and whatever its clock, its line and its
application do, every frame on which a wait ends is made of the bytes that were pending when the
request went out and of those that came in since. -/
theorem every_reply_extends_pending {World : Type} [Clock World] [Line World] [Journal World]
    [Listener World] (config : Config) (world : World) (moves : List (Move World)) :
    RepliesExtendPending ((Session.start config world).run moves) := by
  obtain ⟨⟨gathers, classed⟩, sends⟩ := (Gathers.kept.and Classed.watched.kept).run Sends config
    ⟨Gathers.initial config, Classed.initial config⟩
    (fun link past turn held performed => performed.sends held.1 held.2) world moves
  generalize (Session.start config world).run moves = session at gathers classed sends
  have reply : ∀ turn since report, FrameEnds session turn since report →
      report.frame = (turn.link.inbound.bytes ++ received since).take Adu.maxLength := by
    rintro turn since report ⟨⟨before, later, late, place, there⟩, arms, unended, reply, framed⟩
    have sent := sends before turn later place
    have grown : session.history =
        (history before ++ turn.effects) ++ (since ++ .report report :: late) := by
      rw [Session.history, place]
      simp [there]
    -- The wait has begun, so that none of the frames since then can be anything but its end.
    have waits : (history before ++ turn.effects).foldl Effect.wait false = true := by
      simp only [Turn.arms, Bool.and_eq_true] at arms
      exact sent.waits.trans arms.2
    have inKind := classed.inKind
    rw [grown] at inKind
    have waiting := ((guarded_append _ _ _).mp inKind).2
    rw [waits] at waiting
    have unshown := frames_of_awaited ((guarded_append _ _ _).mp waiting).1 unended
    have taken := gathers.taken
    rw [grown, ← List.append_assoc] at taken
    have frame := taken.allowed_at rfl report.frame (if_neg framed)
    rw [List.foldl_append] at frame
    rw [frame, foldl_gather_of_frames _ unshown, sent.gathers.logs.bytes, take_append_of_take]
    rfl
  refine ⟨?_, reply, ?_, ?_⟩
  · intro turn member arms
    obtain ⟨before, after, place⟩ := List.append_of_mem member
    obtain ⟨early, late, same, plain⟩ := (sends before turn after place).still arms
    exact ⟨early, late, same, received_of_plain plain, frames_of_plain plain⟩
  · intro turn since report ends
    rw [reply turn since report ends, List.take_append,
      List.take_of_length_le turn.link.inbound.fits]
    exact List.prefix_append _ _
  · intro turn since report ends blank
    rw [reply turn since report ends, blank, List.nil_append]

/-- The echo of a write, which came in before the write was sent and was pending since, is accepted
as the reply to it, although nothing has come in since. -/
theorem pending_echo_accepted :
    let echo : List UInt8 := [0x11, 0x06, 0x00, 0x01, 0x00, 0xFF, 0x9A, 0xDA]
    let sent := (Session.start {} { line := { incoming := echo } : Sim.Bench Sim.Wire }).run
      (List.replicate 8 (.call .service) ++
        [.call (.masterSend 0 [0x11, 0x06, 0x00, 0x01, 0x00, 0xFF])])
    let silent := sent.run
      [.meanwhile fun bench => { bench with clock := bench.clock.advanceMs 1 }, .call .service]
    sent.link.isBusy = true ∧ sent.link.inbound.bytes = echo ∧ sent.world.line.incoming = [] ∧
      silent.world.reports = #[{ outcome := .replyAccepted, frame := echo }] ∧
        received silent.history = echo := by
  decide +kernel

end Link

end BusNode
