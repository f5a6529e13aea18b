/-
This file proves what becomes of a reply that came in whole while it was awaited. It is not looked
at before the line has been silent, and every step asks for the deadline before it asks for the
silence. So the reply is accepted exactly if no step found the deadline passed, up to and including
the step that found the silence. Otherwise the wait ends without it, and the reply itself is
reported as a request.

What the steps found is read off their effects: each test is a reading of the clock.
-/
import BusNode.Proofs.Link.Matching
import BusNode.Sim.Bench
import BusNode.Sim.Wire

namespace BusNode

/-! ### What a reading of the clock tells -/

/-- Whether an effect is a reading by which a reply is overdue. -/
def Effect.overdue (since limit : UInt32) : Effect → Bool
  | .millis now => Clock.elapsed now since limit
  | _ => false

/-- Whether an effect is a reading by which the line has been silent long enough. -/
def Effect.silent (last limit : UInt32) : Effect → Bool
  | .micros now => Clock.elapsed now last limit
  | _ => false

/-- The report that an effect gives, if it gives one. -/
def Effect.report? : Effect → Option Link.Report
  | .report given => some given
  | _ => none

namespace Reply

/-- A reply that answers a request passes the basic checks on a frame. -/
theorem check_frame {request reply : List UInt8} (answers : check request reply = .ok ()) :
    Adu.check reply = .ok () := by
  unfold check at answers
  dsimp only at answers
  split at answers
  · cases answers
  · split at answers
    · cases answers
    · cases frame : Adu.check reply with
      | error fault => simp [frame] at answers
      | ok _ => rfl

theorem ne_nil_of_check {request reply : List UInt8} (answers : check request reply = .ok ()) :
    reply ≠ [] := by
  rintro rfl
  cases check_frame answers

end Reply

namespace Link

/-- The reports that were given, the earliest first. -/
def reports (history : List Effect) : List Report := history.filterMap Effect.report?

@[simp] theorem reports_append (past effects : List Effect) :
    reports (past ++ effects) = reports past ++ reports effects :=
  List.filterMap_append

theorem mem_dispatchNotes {link : Link} {effect : Effect} (member : effect ∈ link.dispatchNotes) :
    ∃ notice, effect = .note notice := by
  revert effect
  unfold dispatchNotes
  rw [List.forall_mem_append, List.forall_mem_append, Effect.forall_mem_noteIf,
    Effect.forall_mem_noteIf, List.forall_mem_singleton]
  exact ⟨⟨fun _ => ⟨_, rfl⟩, fun _ => ⟨_, rfl⟩⟩, ⟨_, rfl⟩⟩

theorem reports_dispatchNotes (link : Link) : reports link.dispatchNotes = [] := by
  refine List.filterMap_eq_nil_iff.mpr fun effect member => ?_
  obtain ⟨notice, rfl⟩ := mem_dispatchNotes member
  rfl

/-- The notes before a report hold no reading of the clock. -/
theorem any_overdue_dispatchNotes (link : Link) (since limit : UInt32) :
    link.dispatchNotes.any (Effect.overdue since limit) = false := by
  rw [List.any_eq_false]
  intro effect member
  obtain ⟨notice, rfl⟩ := mem_dispatchNotes member
  simp [Effect.overdue]

/-- What a reply counts as that comes in while none is awaited. -/
def strayOutcome (config : Config) (reply : List UInt8) : Outcome :=
  if Adu.slaveId? reply = some config.slaveId then .requestForUs else .requestForOther

/-! ### A link that holds a reply -/

/-- A wait that began at a time, for the answer to a request, and a reply whose last byte came in at
a time. -/
structure Awaited where
  config : Config
  request : List UInt8
  reply : List UInt8
  since : UInt32
  last : UInt32

namespace Awaited

/-- The report that the reply did not come in time. -/
def late : Report := { outcome := .replyTimedOut, frame := [] }

/-- The report of the reply, while it is or is not awaited. -/
def shown (awaited : Awaited) (waiting : Bool) : Report :=
  { outcome := if waiting then .replyAccepted else strayOutcome awaited.config awaited.reply
    frame := awaited.reply }

/-- Some effect finds the deadline passed. -/
def overdue (awaited : Awaited) (effects : List Effect) : Bool :=
  effects.any (Effect.overdue awaited.since awaited.config.replyTimeout)

/-- Some effect finds the line silent. -/
def silent (awaited : Awaited) (effects : List Effect) : Bool :=
  effects.any (Effect.silent awaited.last awaited.config.interByteTimeout)

/-- Where a link stands that was waiting and held the reply. It may still wait or have given up, and
it may still hold the reply or have reported it. -/
structure Stands (awaited : Awaited) (waiting holding : Bool) (link : Link) : Prop where
  config : link.config = awaited.config
  waitingSince : link.waitingSince = if waiting then some awaited.since else none
  lastByteAt : link.lastByteAt = if holding then some awaited.last else none
  outbound : link.outbound.bytes = awaited.request
  inbound : holding = true → link.inbound.bytes = awaited.reply ∧ link.inbound.overflow = false

/-- What some effects do to a link that waits or does not, and holds the reply or does not. -/
structure Passes (awaited : Awaited) (waiting holding : Bool) (effects : List Effect)
    (next : Link) : Prop where
  waits : awaited.overdue effects = true → waiting = true
  holds : awaited.silent effects = true → holding = true
  reports : reports effects =
    (if awaited.overdue effects then [late] else []) ++
      if awaited.silent effects then [awaited.shown (waiting && !awaited.overdue effects)] else []
  stands : awaited.Stands
    (waiting && !awaited.overdue effects && !awaited.silent effects)
    (holding && !awaited.silent effects) next

namespace Passes

variable {awaited : Awaited} {waiting holding : Bool} {link middle next : Link}
  {effects later : List Effect}

/-- Nothing is found or reported, and the link stands where it stood. -/
theorem still (stands : awaited.Stands waiting holding next)
    (unasked : awaited.overdue effects = false) (unheard : awaited.silent effects = false)
    (unreported : Link.reports effects = []) : awaited.Passes waiting holding effects next := by
  refine ⟨?_, ?_, ?_, ?_⟩
  · simp [unasked]
  · simp [unheard]
  · simp [unasked, unheard, unreported]
  · simpa [unasked, unheard] using stands

theorem trans (first : awaited.Passes waiting holding effects middle)
    (rest : awaited.Passes (waiting && !awaited.overdue effects && !awaited.silent effects)
      (holding && !awaited.silent effects) later next) :
    awaited.Passes waiting holding (effects ++ later) next := by
  have overdue : awaited.overdue (effects ++ later) =
      (awaited.overdue effects || awaited.overdue later) := List.any_append
  have silent : awaited.silent (effects ++ later) =
      (awaited.silent effects || awaited.silent later) := List.any_append
  obtain ⟨waits, holds, reports, -⟩ := first
  obtain ⟨waitsLater, holdsLater, reportsLater, stands⟩ := rest
  -- Which tests came out how, before and after. What was found once is not tested again.
  generalize awaited.overdue effects = lateBefore at *
  generalize awaited.silent effects = silentBefore at *
  generalize awaited.overdue later = lateAfter at *
  generalize awaited.silent later = silentAfter at *
  refine ⟨?_, ?_, ?_, ?_⟩
  · rw [overdue]
    cases lateBefore <;> cases lateAfter <;> simp_all
  · rw [silent]
    cases silentBefore <;> cases silentAfter <;> simp_all
  · rw [reports_append, reports, reportsLater, overdue, silent]
    cases waiting <;> cases lateBefore <;> cases silentBefore <;> cases lateAfter <;>
      cases silentAfter <;> simp_all
  · rw [overdue, silent]
    simpa [Bool.and_assoc, Bool.and_comm, Bool.and_left_comm] using stands

end Passes

/-! ### A step of a link that holds a reply -/

namespace Stands

variable {awaited : Awaited} {waiting holding : Bool} {link next : Link} {effects : List Effect}

theorem waits (stands : awaited.Stands waiting holding link) {since : UInt32}
    (begun : link.waitingSince = some since) : waiting = true ∧ awaited.since = since := by
  rw [stands.waitingSince] at begun
  cases waiting with
  | false => cases begun
  | true => exact ⟨rfl, Option.some.inj begun⟩

theorem holds (stands : awaited.Stands waiting holding link) {last : UInt32}
    (receiving : link.lastByteAt = some last) : holding = true ∧ awaited.last = last := by
  rw [stands.lastByteAt] at receiving
  cases holding with
  | false => cases receiving
  | true => exact ⟨rfl, Option.some.inj receiving⟩

theorem deadline (stands : awaited.Stands waiting holding link)
    (deadline : Deadline link effects next) : awaited.Passes waiting holding effects next := by
  cases deadline with
  | idle _ => exact .still stands rfl rfl rfl
  | @early since now begun early =>
    obtain ⟨-, rfl⟩ := stands.waits begun
    rw [stands.config] at early
    exact .still stands (by simp [overdue, Effect.overdue, early]) rfl rfl
  | @late since now begun late =>
    obtain ⟨rfl, rfl⟩ := stands.waits begun
    rw [stands.config] at late
    have found : awaited.overdue [.millis now, .note .waitTimedOut,
        .report { outcome := .replyTimedOut, frame := [] }] = true := by
      simp [overdue, Effect.overdue, late]
    have unheard : awaited.silent [.millis now, .note .waitTimedOut,
        .report { outcome := .replyTimedOut, frame := [] }] = false := rfl
    refine ⟨fun _ => rfl, by simp [unheard], by rw [found, unheard]; rfl, ?_⟩
    simp only [found, unheard, Bool.not_false, Bool.and_true]
    exact ⟨stands.config, rfl, stands.lastByteAt, stands.outbound, stands.inbound⟩

/-- The class of the reply that a link holds. -/
theorem classify (stands : awaited.Stands waiting true link)
    (answers : Reply.check awaited.request awaited.reply = .ok ()) :
    link.classify = (awaited.shown waiting).outcome := by
  obtain ⟨bytes, whole⟩ := stands.inbound rfl
  have busy : link.isBusy = waiting := by
    rw [isBusy, stands.waitingSince]
    cases waiting <;> rfl
  rw [Link.classify, busy]
  cases waiting with
  | true =>
    have answered : link.checkReply = .ok () := by
      rw [checkReply, whole, if_neg Bool.false_ne_true, stands.outbound, bytes, answers]
    rw [if_pos rfl, classifyReply, answered]
    rfl
  | false =>
    have sound : link.inbound.check = .ok () := by
      rw [FrameBuffer.check, whole, if_neg Bool.false_ne_true, bytes]
      exact Reply.check_frame answers
    rw [if_neg Bool.false_ne_true, classifyRequest, sound]
    simp only [FrameBuffer.slaveId?, bytes, stands.config]
    rfl

theorem silence (stands : awaited.Stands waiting holding link)
    (answers : Reply.check awaited.request awaited.reply = .ok ())
    (silence : Silence link effects next) : awaited.Passes waiting holding effects next := by
  cases silence with
  | idle _ => exact .still stands rfl rfl rfl
  | @soon last now receiving soon =>
    obtain ⟨-, rfl⟩ := stands.holds receiving
    rw [stands.config] at soon
    exact .still stands rfl (by simp [silent, Effect.silent, soon]) rfl
  | @blank last now receiving _ blank =>
    obtain ⟨rfl, -⟩ := stands.holds receiving
    rw [FrameBuffer.isEmpty, (stands.inbound rfl).1, List.isEmpty_iff] at blank
    exact absurd blank (Reply.ne_nil_of_check answers)
  | @frame last now receiving lapsed _ =>
    obtain ⟨rfl, rfl⟩ := stands.holds receiving
    have report : ({ outcome := link.classify, frame := link.inbound.bytes } : Report) =
        awaited.shown waiting := by
      rw [stands.classify answers, (stands.inbound rfl).1]
      rfl
    have unasked : awaited.overdue ([.micros now, .note .silence] ++ link.dispatchEffects) =
        false := by
      simp [overdue, dispatchEffects, any_overdue_dispatchNotes, Effect.overdue]
    have found : awaited.silent ([.micros now, .note .silence] ++ link.dispatchEffects) =
        true := by
      rw [stands.config] at lapsed
      simp [silent, Effect.silent, lapsed]
    refine ⟨fun late => ?_, fun _ => rfl, ?_, ?_⟩
    · rw [unasked] at late
      cases late
    · rw [unasked, found, dispatchEffects, report, reports_append, reports_append,
        reports_dispatchNotes]
      simp [Link.reports, Effect.report?]
    · simp only [unasked, found, Bool.not_true, Bool.and_false]
      exact ⟨stands.config, rfl, rfl, stands.outbound, fun held => by cases held⟩

theorem reception (stands : awaited.Stands waiting holding link)
    (reception : Reception link effects next) (unread : received effects = []) :
    awaited.Passes waiting holding effects next := by
  cases reception with
  | nothing => exact .still stands rfl rfl rfl
  | failed error =>
    exact .still ⟨stands.config, stands.waitingSince, stands.lastByteAt, stands.outbound,
      stands.inbound⟩ rfl rfl rfl
  | byte byte now => cases unread

theorem serviced (stands : awaited.Stands waiting holding link)
    (answers : Reply.check awaited.request awaited.reply = .ok ())
    (serviced : Serviced link effects next) (unread : received effects = []) :
    awaited.Passes waiting holding effects next := by
  obtain ⟨deadline, silence, reception⟩ := serviced
  have silent := (List.append_eq_nil_iff.mp ((List.filterMap_append).symm.trans unread)).2
  have early := stands.deadline deadline
  have both := early.trans (early.stands.silence answers silence)
  exact both.trans (both.stands.reception reception silent)

end Stands

end Awaited

/-! ### Rows of steps -/

/-- A row of steps. -/
inductive Rounds : Link → List Effect → Link → Prop where
  | done {link : Link} : Rounds link [] link
  | round {link middle next : Link} {effects later : List Effect}
      (serviced : Serviced link effects middle) (rest : Rounds middle later next) :
      Rounds link (effects ++ later) next

theorem Rounds.trans {link middle next : Link} {effects later : List Effect}
    (first : Rounds link effects middle) (rest : Rounds middle later next) :
    Rounds link (effects ++ later) next := by
  induction first with
  | done => exact rest
  | round serviced _ inductionHypothesis =>
    rw [List.append_assoc]
    exact .round serviced (inductionHypothesis rest)

theorem Awaited.Stands.rounds {awaited : Awaited} {waiting holding : Bool} {link next : Link}
    {effects : List Effect} (stands : awaited.Stands waiting holding link)
    (answers : Reply.check awaited.request awaited.reply = .ok ())
    (rounds : Rounds link effects next) (unread : received effects = []) :
    awaited.Passes waiting holding effects next := by
  induction rounds generalizing waiting holding with
  | done => exact .still stands rfl rfl rfl
  | round serviced _ inductionHypothesis =>
    obtain ⟨first, later⟩ := List.append_eq_nil_iff.mp ((List.filterMap_append).symm.trans unread)
    have passes := stands.serviced answers serviced first
    exact passes.trans (inductionHypothesis passes.stands later)

/-- A move that calls nothing but a step. -/
def Move.Serves {World : Type} : Move World → Prop
  | .call made => made = .service
  | .meanwhile _ => True

theorem Session.run_rounds {World : Type} [Clock World] [Line World] [Journal World]
    [Listener World] (session : Session World) {moves : List (Move World)}
    (serves : ∀ move ∈ moves, move.Serves) :
    ∃ effects, (session.run moves).history = session.history ++ effects ∧
      Rounds session.link effects (session.run moves).link := by
  induction moves generalizing session with
  | nil => exact ⟨[], (List.append_nil _).symm, .done⟩
  | cons first rest inductionHypothesis =>
    obtain ⟨now, later⟩ := List.forall_mem_cons.mp serves
    match first with
    | .meanwhile change => exact inductionHypothesis { session with world := _ } later
    | .call made =>
      obtain rfl : made = .service := now
      obtain ⟨answer, effects, next, world, moved, performed, -⟩ := session.move_call .service
      have serviced : Serviced session.link effects next := by
        cases performed with
        | service serviced => exact serviced
        | named named _ => cases named
      obtain ⟨more, grown, rounds⟩ := inductionHypothesis (session.move (.call .service)) later
      rw [moved] at grown rounds
      refine ⟨effects ++ more, ?_, .round serviced ?_⟩
      · rw [← List.append_assoc]
        refine Eq.trans ?_ (grown.trans ?_)
        · rw [← moved]
          rfl
        · rw [Session.history, Session.history, history_append, history_cons, history_nil,
            List.append_nil]
      · rw [Session.run, List.foldl_cons, moved]
        exact rounds

/-! ### Late steps -/

/-- What becomes of a reply that a session has received whole and still awaits, in a row of further
steps. As long as nothing else comes in, the reports depend on two things alone: whether a step
finds the line silent, and whether one finds the deadline passed. No step asks for the deadline any
more once the silence was found. -/
def AcceptedUnlessOverdue {World : Type} [Clock World] [Line World] [Journal World]
    [Listener World] (session : Session World) (rest : List (Move World))
    (request reply : List UInt8) : Prop :=
  ∃ (awaited : Awaited) (later : List Effect),
    awaited.request = request ∧ awaited.reply = reply ∧ awaited.Stands true true session.link ∧
      (session.run rest).history = session.history ++ later ∧
      (received later = [] →
        reports later =
          (if awaited.overdue later then [Awaited.late] else []) ++
            (if awaited.silent later then [awaited.shown (!awaited.overdue later)] else []) ∧
        awaited.Stands (!awaited.overdue later && !awaited.silent later) (!awaited.silent later)
          (session.run rest).link)

/-- A reply that came in whole while it was awaited, and that answers the request, is accepted
exactly if no step finds the deadline passed up to the one that finds the line silent. If one does,
the wait ends without the reply, and the reply counts as a request. -/
theorem reply_accepted_unless_overdue {World : Type} [Clock World] [Line World] [Journal World]
    [Listener World] {config : Config} {world : World} {moves rest : List (Move World)}
    {session : Session World} {request reply : List UInt8}
    (reached : session = (Session.start config world).run moves)
    (outstanding : requested session.history = some request)
    (opened : (Segments.ofHistory config.interByteTimeout session.history).opened = reply)
    (answers : Reply.check request reply = .ok ()) (fits : reply.length ≤ Adu.maxLength)
    (serves : ∀ move ∈ rest, move.Serves) :
    AcceptedUnlessOverdue session rest request reply := by
  have matched := (Matched.watched.kept.run (fun _ _ => True) config (Matched.initial config)
    (fun _ _ _ _ _ => trivial) world moves).1
  have cuts := (Framed.run config world moves).2
  rw [← reached] at matched cuts
  have waits := matched.request
  rw [outstanding] at waits
  have busy : session.link.isBusy = true := by
    cases busy : session.link.isBusy with
    | true => rfl
    | false => simp [busy] at waits
  obtain ⟨since, begun⟩ := Option.isSome_iff_exists.mp busy
  have receives : session.link.lastByteAt ≠ none := fun idle =>
    Reply.ne_nil_of_check answers (opened.symm.trans (cuts.closed.mpr idle))
  obtain ⟨last, receiving⟩ := Option.ne_none_iff_exists'.mp receives
  have logs : session.link.inbound.Logs reply := opened ▸ cuts.logs
  have stands : Awaited.Stands ⟨session.link.config, request, reply, since, last⟩ true true
      session.link := by
    refine ⟨rfl, begun, receiving, ?_, fun _ => ⟨?_, ?_⟩⟩
    · rw [busy, if_pos rfl] at waits
      exact (Option.some.inj waits).symm
    · rw [logs.bytes, List.take_of_length_le fits]
    · rw [logs.overflow, decide_eq_false (Nat.not_lt.mpr fits)]
  obtain ⟨effects, grown, rounds⟩ := session.run_rounds serves
  refine ⟨_, effects, rfl, rfl, stands, grown, fun unread => ?_⟩
  have passes := stands.rounds answers rounds unread
  exact ⟨by simpa using passes.reports, by simpa using passes.stands⟩

/-- The write of a register, with its checksum. The slave echoes it. -/
def sampleWrite : List UInt8 := [0x11, 0x06, 0x00, 0x01, 0x00, 0xFF, 0x9A, 0xDA]

/-- A write whose echo has come in, but not yet the silence after it. -/
def echoMoves : List (Move (Sim.Bench Sim.Wire)) :=
  .call (.masterSend 0 (sampleWrite.take 6)) :: List.replicate 8 (.call .service)

/-- A session that holds the echo of a write. -/
def echoed : Session (Sim.Bench Sim.Wire) :=
  (Session.start {} { line := { responder := .echo } }).run echoMoves

/-- A step after some milliseconds. -/
def stepAfter (time : UInt64) : List (Move (Sim.Bench Sim.Wire)) :=
  [.meanwhile fun bench => { bench with clock := bench.clock.advanceMs time }, .call .service]

/-- The echo of a write is decided on by a step a millisecond later, which finds the silence but not
the deadline, and so accepts it. -/
theorem echo_accepted_in_time :
    requested echoed.history = some sampleWrite ∧
      (Segments.ofHistory ({} : Config).interByteTimeout echoed.history).opened = sampleWrite ∧
      Reply.check sampleWrite sampleWrite = .ok () ∧
      AcceptedUnlessOverdue echoed (stepAfter 1) sampleWrite sampleWrite ∧
      reports (echoed.run (stepAfter 1)).history =
        [{ outcome := .replyAccepted, frame := sampleWrite }] := by
  have outstanding : requested echoed.history = some sampleWrite := by decide +kernel
  have opened : (Segments.ofHistory ({} : Config).interByteTimeout echoed.history).opened =
      sampleWrite := by decide +kernel
  have answers : Reply.check sampleWrite sampleWrite = .ok () := by decide +kernel
  exact ⟨outstanding, opened, answers,
    reply_accepted_unless_overdue rfl outstanding opened answers (by decide)
      (by simp [stepAfter, Move.Serves]), by decide +kernel⟩

/-- The same echo, which had come in whole before the deadline, is given up on by a step that comes
after it, and then taken for a request to another slave. -/
theorem echo_lost_to_late_step :
    (Segments.ofHistory ({} : Config).interByteTimeout echoed.history).opened = sampleWrite ∧
      requested echoed.history = some sampleWrite ∧
      Reply.check sampleWrite sampleWrite = .ok () ∧
      reports (echoed.run (stepAfter 101)).history =
        [{ outcome := .replyTimedOut, frame := [] },
         { outcome := .requestForOther, frame := sampleWrite }] := by
  decide +kernel

end Link

end BusNode
