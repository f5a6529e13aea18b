/-
This file proves that a link judges each frame that ends while no reply is awaited by the bytes of
that frame alone. A history says by itself where the segments end, whether a reply is awaited there,
and what became of the frames before; the turns say which id the node has. The report of such a
frame is a function of the whole segment and of that id. It follows the end of the segment with
nothing but notes in between.

The buffer and its memory of dropped bytes serve every frame in turn. That neither leaves a trace on
the next frame is the invariant that framing keeps: the buffer logs the segment that is open.
-/
import BusNode.Proofs.Link.Hearing

namespace BusNode

namespace Link

/-! ### What a segment is by itself -/

/-- What a segment is by itself, for a node with an id: too long for the buffer, too short for a
frame, for no slave that there can be, not sealed by its checksum, or a request. -/
def verdict (id : UInt8) (segment : List UInt8) : Outcome :=
  if 40 < segment.length then .requestInvalid .overflow
  else if segment.length < 5 then .requestInvalid .tooShort
  else if ¬ segment.head?.any fun first => 1 ≤ first && first ≤ 247 then
    .requestInvalid .badSlaveId
  else if segment.drop (segment.length - 2) ≠
      Word.littleEndian (Checksum.compute (segment.take (segment.length - 2))) then
    .requestInvalid .badChecksum
  else if segment.head? = some id then .requestForUs
  else .requestForOther

theorem judgeRequest_eq_verdict (id : UInt8) (segment : List UInt8) :
    judgeRequest id segment = verdict id segment := by
  unfold judgeRequest verdict
  by_cases long : 40 < segment.length
  · exact (if_pos long).trans (if_pos long).symm
  rw [if_neg long, if_neg (show ¬ Adu.maxLength < segment.length from long), Adu.check]
  by_cases short : segment.length < 5
  · rw [if_pos short, if_pos (show segment.length < Adu.minLength from short)]
  rw [if_neg short, if_neg (show ¬ segment.length < Adu.minLength from short)]
  obtain ⟨first, rest, rfl⟩ := List.exists_cons_of_length_pos (show 0 < segment.length by omega)
  have whole : Checksum.trailerLength ≤ (first :: rest).length := by
    rw [Checksum.trailerLength]
    omega
  have sealed : Checksum.holds (first :: rest) = true ↔
      (first :: rest).drop ((first :: rest).length - 2) =
        Word.littleEndian (Checksum.compute
          ((first :: rest).take ((first :: rest).length - 2))) := by
    rw [Checksum.holds, decide_eq_true whole, Bool.true_and, beq_iff_eq]
    rfl
  have named : Adu.slaveId? (first :: rest) = some first := rfl
  have slave : (1 ≤ first && first ≤ 247 : Bool) = Adu.isSlaveId first := rfl
  rw [named, Option.all_some, List.head?_cons, Option.any_some, slave]
  by_cases valid : Adu.isSlaveId first = true
  · rw [if_pos valid, if_neg (not_not.mpr valid)]
    by_cases holds : Checksum.holds (first :: rest) = true
    · rw [if_pos holds, if_neg (not_not.mpr (sealed.mp holds))]
    · rw [if_neg holds, if_pos (mt sealed.mpr holds)]
  · rw [if_neg valid, if_pos valid]

/-- No request is for a node that has not been given an id. -/
theorem verdict_unassigned (segment : List UInt8) : verdict 0 segment ≠ .requestForUs := by
  unfold verdict
  intro ours
  split at ours; · cases ours
  split at ours; · cases ours
  split at ours
  · cases ours
  · rename_i valid
    split at ours; · cases ours
    split at ours
    · rename_i unassigned
      rw [unassigned] at valid
      exact valid (by decide)
    · cases ours

/-- The report of a segment that is no reply. -/
def requestReport (id : UInt8) (segment : List UInt8) : Report :=
  { outcome := verdict id segment, frame := segment.take Adu.maxLength }

/-! ### What a history calls for -/

end Link

/-- An effect ends a segment. -/
def Segments.Ends (limit : UInt32) (segments : Segments) (effect : Effect) (segment : List UInt8) :
    Prop :=
  (segments.next limit effect).ended = segments.ended ++ [segment]

theorem Segments.not_ends_of_same {limit : UInt32} {segments : Segments} {effect : Effect}
    (same : (segments.next limit effect).ended = segments.ended) (segment : List UInt8) :
    ¬ segments.Ends limit effect segment := by
  intro ends
  have longer := congrArg List.length (same.symm.trans ends)
  rw [List.length_append, List.length_singleton] at longer
  omega

/-- Only the clock ends a segment. -/
theorem Segments.not_ends {limit : UInt32} {effect : Effect}
    (timeless : ∀ now, effect ≠ .micros now) (segments : Segments) (segment : List UInt8) :
    ¬ segments.Ends limit effect segment := by
  refine not_ends_of_same ?_ segment
  match effect with
  | .read (.ok (some _)) | .read (.ok none) | .read (.error _) => rfl
  | .micros now => exact absurd rfl (timeless now)
  | .millis _ | .drive _ _ | .write _ _ | .flush _ | .note _ | .report _ => rfl

namespace Link

/-- What a history says about the bytes that came in and about the wait for a reply. -/
structure Moment where
  segments : Segments := {}
  waiting : Bool := false

namespace Moment

variable {limit : UInt32} {id : UInt8} {effect : Effect} {effects : List Effect}

def next (limit : UInt32) (moment : Moment) (effect : Effect) : Moment :=
  { segments := moment.segments.next limit effect, waiting := Effect.wait moment.waiting effect }

/-- What a history says from its beginning. -/
def ofHistory (limit : UInt32) (history : List Effect) : Moment := history.foldl (next limit) {}

theorem foldl_next (limit : UInt32) (effects : List Effect) (moment : Moment) :
    effects.foldl (next limit) moment =
      { segments := effects.foldl (Segments.next limit) moment.segments
        waiting := effects.foldl Effect.wait moment.waiting } := by
  induction effects generalizing moment with
  | nil => rfl
  | cons effect rest inductionHypothesis => exact inductionHypothesis (moment.next limit effect)

theorem ofHistory_eq (limit : UInt32) (history : List Effect) :
    ofHistory limit history =
      { segments := Segments.ofHistory limit history, waiting := awaiting history } :=
  foldl_next limit history {}

/-- A segment that ends while no reply is awaited calls for its report, with nothing but notes
before it. -/
def Owes (limit : UInt32) (id : UInt8) (moment : Moment) (effect : Effect) (late : List Effect) :
    Prop :=
  moment.waiting = false → ∀ segment, moment.segments.Ends limit effect segment →
    ∃ notes rest, late = notes ++ .report (requestReport id segment) :: rest ∧
      ∀ effect ∈ notes, ∃ notice, effect = .note notice

/-- A report that is not of a reply is that of the segment that ended last, and no reply is awaited.
-/
def Judges (id : UInt8) (moment : Moment) (effect : Effect) : Prop :=
  ∀ report, effect = .report report → report.outcome.isReply = false →
    moment.waiting = false ∧ ∃ segment, moment.segments.ended.getLast? = some segment ∧
      report = requestReport id segment

theorem owes_of_timeless (timeless : ∀ now, effect ≠ .micros now) (moment : Moment)
    (late : List Effect) : moment.Owes limit id effect late :=
  fun _ segment ends => absurd ends (Segments.not_ends timeless moment.segments segment)

theorem Owes.append {moment : Moment} {late : List Effect} (more : List Effect)
    (owes : moment.Owes limit id effect late) : moment.Owes limit id effect (late ++ more) := by
  intro free segment ends
  obtain ⟨notes, rest, rfl, quiet⟩ := owes free segment ends
  exact ⟨notes, rest ++ more, by rw [List.append_assoc]; rfl, quiet⟩

theorem judges_of_aside (aside : effect.aside = true) (moment : Moment) :
    moment.Judges id effect := by
  rintro report rfl
  cases aside

theorem guarded_of_aside (aside : ∀ effect ∈ effects, effect.aside = true) (moment : Moment) :
    Guarded (next limit) (Judges id) moment effects :=
  guarded_of_always fun effect member => judges_of_aside (aside effect member)

theorem followed_of_timeless (timeless : ∀ effect ∈ effects, ∀ now, effect ≠ .micros now)
    (moment : Moment) : Followed (next limit) (Owes limit id) moment effects :=
  .of_always fun effect member => owes_of_timeless (timeless effect member)

end Moment

/-! ### A link does what its history calls for -/

theorem note_of_mem_dispatchNotes (link : Link) :
    ∀ effect ∈ link.dispatchNotes, ∃ notice, effect = .note notice := by
  rw [dispatchNotes, List.forall_mem_append, List.forall_mem_append, Effect.forall_mem_noteIf,
    Effect.forall_mem_noteIf]
  exact ⟨⟨fun _ => ⟨_, rfl⟩, fun _ => ⟨_, rfl⟩⟩, List.forall_mem_singleton.mpr ⟨_, rfl⟩⟩

/-- A link has the id, holds the segment that is open, and waits when its history says so. -/
structure Attends (limit : UInt32) (id : UInt8) (link : Link) (moment : Moment)
    (shown : List (List UInt8)) : Prop where
  cuts : Cuts limit link moment.segments shown
  waiting : moment.waiting = link.isBusy
  slaveId : link.config.slaveId = id

/-- Some effects do what was called for, and the link attends to what comes next. -/
structure Conforms (limit : UInt32) (id : UInt8) (moment : Moment) (shown : List (List UInt8))
    (effects : List Effect) (next : Link) : Prop where
  judges : Guarded (Moment.next limit) (Moment.Judges id) moment effects
  owes : Followed (Moment.next limit) (Moment.Owes limit id) moment effects
  attends : Attends limit id next (effects.foldl (Moment.next limit) moment)
    (shown ++ frames effects)

variable {limit : UInt32} {id : UInt8} {link middle next : Link} {moment : Moment}
  {shown : List (List UInt8)} {effects later : List Effect}

theorem Conforms.trans (first : Conforms limit id moment shown effects middle)
    (rest : Attends limit id middle (effects.foldl (Moment.next limit) moment)
        (shown ++ frames effects) →
      Conforms limit id (effects.foldl (Moment.next limit) moment) (shown ++ frames effects) later
        next) :
    Conforms limit id moment shown (effects ++ later) next := by
  obtain ⟨judges, owes, attends⟩ := rest first.attends
  refine ⟨(guarded_append _ _ _).mpr ⟨first.judges, judges⟩,
    first.owes.append (fun more owes => owes.append more) owes, ?_⟩
  rw [List.foldl_append, frames_append, ← List.append_assoc]
  exact attends

namespace Attends

variable (attends : Attends limit id link moment shown)

include attends

/-- Effects that have no part in framing call for nothing. -/
theorem unframed (unframed : ∀ effect ∈ effects, effect.unframed = true)
    (config : next.config = link.config) (inbound : next.inbound = link.inbound)
    (lastByteAt : next.lastByteAt = link.lastByteAt)
    (waits : effects.foldl Effect.wait link.isBusy = next.isBusy) :
    Conforms limit id moment shown effects next := by
  refine ⟨guarded_of_always fun effect member moment => ?_,
    Moment.followed_of_timeless (fun effect member now same => ?_) moment, ?_, ?_,
    by rw [config, attends.slaveId]⟩
  · rintro report rfl
    cases unframed _ member
  · rw [same] at member
    cases unframed _ member
  · rw [Moment.foldl_next]
    exact (attends.cuts.unframed unframed (by rw [config]) inbound lastByteAt).2
  · rw [Moment.foldl_next, attends.waiting]
    exact waits

theorem quiet (unframed : ∀ effect ∈ effects, effect.unframed = true)
    (config : next.config = link.config) (inbound : next.inbound = link.inbound)
    (lastByteAt : next.lastByteAt = link.lastByteAt) (quiet : Quiet link effects next) :
    Conforms limit id moment shown effects next := by
  refine attends.unframed unframed config inbound lastByteAt ?_
  rw [foldl_wait_of_aside _ quiet.aside, isBusy, isBusy, quiet.waiting]

/-! ### The parts of a step -/

theorem deadline (deadline : Deadline link effects next) :
    Conforms limit id moment shown effects next := by
  have continues := attends.cuts.deadline deadline
  cases deadline with
  | idle _ => exact attends.quiet (by simp) rfl rfl rfl ⟨by simp, rfl, fun _ => rfl⟩
  | early _ _ =>
    exact attends.quiet (by simp [Effect.unframed]) rfl rfl rfl
      ⟨by simp [Effect.aside], rfl, fun _ => rfl⟩
  | late _ _ =>
    -- The report is that of a reply, and it ends the wait.
    refine ⟨guarded_of_always fun effect member moment report same request => ?_,
      Moment.followed_of_timeless (by simp) moment, ?_, ?_, attends.slaveId⟩
    · rw [same] at member
      obtain rfl : report = _ := by simpa using member
      cases request
    · rw [Moment.foldl_next]
      exact continues.2
    · rw [Moment.foldl_next]
      simp [Effect.wait, Effect.arms, Effect.replies, Effect.outcome?, Outcome.isReply, isBusy,
        expired]

/-- The report of a frame that ends while no reply is awaited. -/
theorem report (free : link.isBusy = false) :
    ({ outcome := link.classify, frame := link.inbound.bytes } : Report) =
      requestReport id moment.segments.opened := by
  rw [attends.cuts.classify, free, if_neg Bool.false_ne_true, judgeRequest_eq_verdict,
    attends.slaveId, attends.cuts.logs.bytes]
  rfl

/-- A frame that ends is reported. It counts for itself unless a reply is awaited. -/
theorem dispatch {now : UInt32}
    (ended : moment.segments.next limit (.micros now) = moment.segments.close) :
    Guarded (Moment.next limit) (Moment.Judges id) moment
        ([.micros now, .note .silence] ++ link.dispatchEffects) ∧
      Followed (Moment.next limit) (Moment.Owes limit id) moment
        ([.micros now, .note .silence] ++ link.dispatchEffects) ∧
      (([Effect.micros now, .note .silence] ++ link.dispatchEffects).foldl (Moment.next limit)
        moment).waiting = false := by
  have notes : ∀ effect ∈ Effect.note .silence :: link.dispatchNotes,
      ∃ notice, effect = .note notice :=
    List.forall_mem_cons.mpr ⟨⟨_, rfl⟩, note_of_mem_dispatchNotes link⟩
  have aside : ∀ effect ∈ Effect.micros now :: .note .silence :: link.dispatchNotes,
      effect.aside = true :=
    List.forall_mem_cons.mpr ⟨rfl, List.forall_mem_cons.mpr ⟨rfl, fun effect member =>
      Effect.aside_of_incidental (dispatchNotes_incidental link effect member)⟩⟩
  have state :
      (Effect.micros now :: .note .silence :: link.dispatchNotes).foldl (Moment.next limit) moment =
        { segments := moment.segments.close, waiting := moment.waiting } := by
    rw [Moment.foldl_next, foldl_wait_of_aside _ aside, List.foldl_cons, ended]
    refine congrArg (Moment.mk · moment.waiting) (Segments.foldl_of_unframed _ ?_)
    intro effect member
    obtain ⟨notice, rfl⟩ := notes effect member
    rfl
  have parts : [Effect.micros now, .note .silence] ++ link.dispatchEffects =
      (.micros now :: .note .silence :: link.dispatchNotes) ++
        [.report { outcome := link.classify, frame := link.inbound.bytes }] := rfl
  rw [parts]
  refine ⟨?_, ⟨fun free segment ends => ?_, Moment.followed_of_timeless ?_ _⟩, ?_⟩
  · rw [guarded_append, state]
    refine ⟨Moment.guarded_of_aside aside moment, ?_, trivial⟩
    rintro _ ⟨⟩ request
    have free : link.isBusy = false := (isReply_classify link).symm.trans request
    exact ⟨attends.waiting.trans free, _, List.getLast?_concat, attends.report free⟩
  · have same : moment.segments.opened = segment := by
      rw [Segments.Ends, ended] at ends
      exact List.singleton_inj.mp (List.append_cancel_left ends)
    refine ⟨.note .silence :: link.dispatchNotes, [], ?_, notes⟩
    rw [← same, ← attends.report (attends.waiting.symm.trans free)]
    rfl
  · refine List.forall_mem_append.mpr ⟨fun effect member now same => ?_, by simp⟩
    obtain ⟨notice, rfl⟩ := notes effect member
    cases same
  · have rested : Effect.wait link.isBusy
        (.report { outcome := link.classify, frame := link.inbound.bytes }) = false := by
      rw [← isReply_classify]
      simp [Effect.wait, Effect.arms, Effect.replies, Effect.outcome?]
    rw [List.foldl_append, state, attends.waiting]
    exact rested

theorem silence (silence : Silence link effects next) :
    Conforms limit id moment shown effects next := by
  have continues := (attends.cuts.silence silence).1
  cases silence with
  | idle _ => exact attends.quiet (by simp) rfl rfl rfl ⟨by simp, rfl, fun _ => rfl⟩
  | @soon last now receiving soon =>
    rw [attends.cuts.limited] at soon
    have tested := Segments.next_of_soon (attends.cuts.stamp.trans receiving) soon
    have aside : ∀ effect ∈ [Effect.micros now], effect.aside = true := by simp [Effect.aside]
    refine ⟨Moment.guarded_of_aside aside moment, ⟨fun _ segment ends => ?_, trivial⟩, ?_, ?_,
      attends.slaveId⟩
    · exact absurd ends (Segments.not_ends_of_same (by rw [tested]) segment)
    · rw [Moment.foldl_next]
      exact continues.2
    · rw [Moment.foldl_next, foldl_wait_of_aside _ aside]
      exact attends.waiting
  | @blank last now receiving lapsed blank =>
    have closed := (attends.cuts.logs.isEmpty_iff (by decide)).mp blank
    rw [attends.cuts.closed.mp closed] at receiving
    cases receiving
  | @frame last now receiving lapsed frame =>
    rw [attends.cuts.limited] at lapsed
    obtain ⟨judges, owes, rested⟩ :=
      attends.dispatch (Segments.next_of_lapsed (attends.cuts.stamp.trans receiving) lapsed)
    refine ⟨judges, owes, ?_, rested, attends.slaveId⟩
    rw [Moment.foldl_next]
    exact continues.2

/-- A step that takes bytes in ends no segment. -/
theorem reception (ready : moment.segments.opened = [] ∨ moment.segments.tested = true)
    (reception : Reception link effects next) : Conforms limit id moment shown effects next := by
  have continues := attends.cuts.reception ready reception
  have quiet := reception.quiet
  refine ⟨Moment.guarded_of_aside quiet.aside moment, ?_, ?_, ?_, ?_⟩
  · cases reception with
    | nothing | failed _ => exact Moment.followed_of_timeless (by simp) moment
    | byte byte now =>
      -- The clock is asked for the time of the byte, so there is no time yet to compare it with.
      refine Followed.append (fun more owes => owes.append more)
        (Moment.followed_of_timeless ?_ moment) ⟨fun _ segment ends => absurd ends ?_, trivial⟩
      · refine List.forall_mem_append.mpr ⟨by simp, ?_⟩
        rw [Effect.forall_mem_noteIf]
        exact fun _ now => nofun
      · refine Segments.not_ends_of_same ?_ segment
        rw [Moment.foldl_next, List.foldl_append, Segments.foldl_of_unframed]
        · simp [Segments.next]
        · rw [Effect.forall_mem_noteIf]
          exact fun _ => rfl
  · rw [Moment.foldl_next]
    exact continues.2
  · rw [Moment.foldl_next, foldl_wait_of_aside _ quiet.aside, attends.waiting, isBusy, isBusy,
      quiet.waiting]
  · cases reception <;> exact attends.slaveId

/-! ### Steps and calls -/

theorem serviced (serviced : Serviced link effects next) :
    Conforms limit id moment shown effects next := by
  obtain ⟨deadline, silence, reception⟩ := serviced
  rw [List.append_assoc]
  refine (attends.deadline deadline).trans fun attends => ?_
  have ready := (attends.cuts.silence silence).2
  refine (attends.silence silence).trans fun framed => framed.reception ?_ reception
  rw [Moment.foldl_next]
  exact ready

theorem pumped (pumped : Pumped link effects next) :
    Conforms limit id moment shown effects next := by
  induction pumped generalizing moment shown with
  | done => exact attends.quiet (by simp) rfl rfl rfl ⟨by simp, rfl, fun _ => rfl⟩
  | step _ serviced _ inductionHypothesis =>
    exact (attends.serviced serviced).trans inductionHypothesis

theorem load {frame : List UInt8} {result : Except Error Unit}
    (load : link.load frame = (result, next)) : Conforms limit id moment shown [] next := by
  rw [load_eq load]
  exact attends.quiet (by simp) rfl rfl rfl ⟨by simp, rfl, fun _ => rfl⟩

theorem transmission {bytes : List UInt8} {result : Except Error Unit}
    (transmission : Transmission bytes link result effects next) :
    Conforms limit id moment shown effects next := by
  refine attends.quiet (fun effect member =>
    Effect.unframed_of_incidental (transmission.incidental effect member)) ?_ ?_ ?_
    transmission.quiet <;> cases transmission <;> rfl

theorem armed (armed : Armed link effects next) :
    Conforms limit id moment shown effects next := by
  cases armed with
  | awaited now _ =>
    exact attends.unframed (by simp [Effect.unframed]) rfl rfl rfl
      (by simp [Effect.wait, Effect.arms, isBusy])
  | unawaited _ => exact attends.quiet (by simp) rfl rfl rfl ⟨by simp, rfl, fun _ => rfl⟩

theorem delivery {frame : List UInt8} {result : SendResult}
    (delivery : Delivery frame link result effects next) :
    Conforms limit id moment shown effects next := by
  cases delivery with
  | waiting pumped _ => exact attends.pumped pumped
  | refused pumped _ load =>
    have loaded := (attends.pumped pumped).trans fun attends => attends.load load
    rwa [List.append_nil] at loaded
  | failed pumped _ load transmission | sent pumped _ load transmission =>
    have loaded := (attends.pumped pumped).trans fun attends => attends.load load
    rw [List.append_nil] at loaded
    exact loaded.trans fun attends => attends.transmission transmission

theorem requested {frame : List UInt8} {result : SendResult}
    (requested : Requested frame link result effects next) :
    Conforms limit id moment shown effects next := by
  cases requested with
  | unfit _ => exact attends.quiet (by simp) rfl rfl rfl ⟨by simp, rfl, fun _ => rfl⟩
  | unsent _ delivery _ => exact attends.delivery delivery
  | sent _ delivery armed =>
    exact (attends.delivery delivery).trans fun attends => attends.armed armed

theorem asked {built : Except Error Frame} {result : SendResult}
    (asked : Asked link built result effects next) :
    Conforms limit id moment shown effects next := by
  cases asked with
  | malformed _ => exact attends.quiet (by simp) rfl rfl rfl ⟨by simp, rfl, fun _ => rfl⟩
  | @built frame _ _ _ requested =>
    have noted : Conforms limit id moment shown (builtEffects frame) link :=
      attends.quiet (fun effect member =>
        Effect.unframed_of_incidental (builtEffects_incidental frame effect member)) rfl rfl rfl
        (builtEffects_quiet frame link)
    exact noted.trans fun attends => attends.requested requested

/-- A link may be given other settings that leave the framing alone. -/
theorem configured (other : Link) (baudRate : other.config.baudRate = link.config.baudRate)
    (inbound : other.inbound = link.inbound) (lastByteAt : other.lastByteAt = link.lastByteAt)
    (waits : other.waitingSince = link.waitingSince) :
    Attends limit other.config.slaveId other moment shown := by
  have continues : Continues limit moment.segments shown [] other :=
    attends.cuts.unframed (List.forall_mem_nil _) baudRate inbound lastByteAt
  have cuts : Cuts limit other moment.segments (shown ++ []) := continues.2
  rw [List.append_nil] at cuts
  exact ⟨cuts, by rw [attends.waiting, isBusy, isBusy, waits], rfl⟩

end Attends

/-! ### Turns -/

/-- The id that a node has after a call, if it had another before. -/
def Turn.assign (id : UInt8) (turn : Turn) : UInt8 :=
  match turn.call, turn.answer with
  | .setSlaveId given, .done => given
  | _, _ => id

/-- The id that a node has after some calls: the one that it was set up with, or the one that it was
last given. -/
def assigned (config : Config) (turns : List Turn) : UInt8 :=
  turns.foldl Turn.assign config.slaveId

/-- A call goes by the id that the node had before. -/
structure Keeps (limit : UInt32) (id : UInt8) (moment : Moment) (shown : List (List UInt8))
    (turn : Turn) : Prop where
  judges : Guarded (Moment.next limit) (Moment.Judges id) moment turn.effects
  owes : Followed (Moment.next limit) (Moment.Owes limit id) moment turn.effects
  attends : Attends limit (turn.assign id) turn.link (turn.effects.foldl (Moment.next limit) moment)
    (shown ++ frames turn.effects)

theorem Conforms.keeps {call : Call} {answer : Answer}
    (conforms : Conforms limit id moment shown effects next)
    (same : Turn.assign id ⟨call, answer, effects, next⟩ = id) :
    Keeps limit id moment shown ⟨call, answer, effects, next⟩ :=
  ⟨conforms.judges, conforms.owes, same.symm ▸ conforms.attends⟩

theorem Attends.performed {call : Call} {answer : Answer}
    (attends : Attends limit id link moment shown) (performed : Performed link call answer effects next) :
    Keeps limit id moment shown ⟨call, answer, effects, next⟩ := by
  have silent : shown ++ frames [] = shown := List.append_nil shown
  cases performed with
  | service serviced => exact (attends.serviced serviced).keeps rfl
  | sendRaw transmission => exact (attends.transmission transmission).keeps rfl
  | slaveSend delivery => exact (attends.delivery delivery).keeps rfl
  | masterSend requested => exact (attends.requested requested).keeps rfl
  | named named asked =>
    refine (attends.asked asked).keeps ?_
    cases call <;> first | rfl | cases named
  | @setSlaveId given _ =>
    have renamed := attends.configured
      { link with config := { link.config with slaveId := given } } rfl rfl rfl rfl
    exact ⟨trivial, trivial, silent.symm ▸ renamed⟩
  | keepSlaveId _ => exact ⟨trivial, trivial, silent.symm ▸ attends⟩
  | @setPacketLogging enabled =>
    have kept : Attends limit id (link.setPacketLogging enabled) moment shown := by
      rw [← attends.slaveId]
      exact attends.configured (link.setPacketLogging enabled) rfl rfl rfl rfl
    exact ⟨trivial, trivial, silent.symm ▸ kept⟩

/-! ### Every frame by itself -/

/-- What it means that a session judges each frame by itself that ends while no reply is awaited. -/
structure JudgesAlone {World : Type} (config : Config) (session : Session World) : Prop where
  /-- The calls say which id the node has. -/
  known : session.link.config.slaveId = assigned config session.turns
  /-- The frame is reported right after its end, as what it is by itself for a node with the id that
  this node has then. Notes alone come in between. -/
  ended : ∀ before turn after, session.turns = before ++ turn :: after →
    ∀ early effect late, turn.effects = early ++ effect :: late →
      awaiting (history before ++ early) = false →
      ∀ segment, (Segments.ofHistory config.interByteTimeout (history before ++ early)).Ends
          config.interByteTimeout effect segment →
        ∃ notes rest,
          late = notes ++ .report (requestReport (assigned config before) segment) :: rest ∧
            ∀ effect ∈ notes, ∃ notice, effect = .note notice
  /-- Every report that is not of a reply is that of such a frame, the one that ended last. -/
  reported : ∀ before turn after, session.turns = before ++ turn :: after →
    ∀ early report late, turn.effects = early ++ .report report :: late →
      report.outcome.isReply = false → awaiting (history before ++ early) = false ∧
        ∃ segment,
          (Segments.ofHistory config.interByteTimeout (history before ++ early)).ended.getLast? =
              some segment ∧
            report = requestReport (assigned config before) segment
  /-- No request is for a node that has not been given an id. -/
  unassigned : ∀ before turn after, session.turns = before ++ turn :: after →
    assigned config before = 0 → ∀ report, .report report ∈ turn.effects →
      report.outcome ≠ .requestForUs

/-- What is true of a session in which every call went by the id that the node had then. -/
def Obeys {World : Type} (config : Config) (session : Session World) : Prop :=
  Attends config.interByteTimeout (assigned config session.turns) session.link
      (Moment.ofHistory config.interByteTimeout session.history) (frames session.history) ∧
    ∀ before turn after, session.turns = before ++ turn :: after →
      Keeps config.interByteTimeout (assigned config before)
        (Moment.ofHistory config.interByteTimeout (history before)) (frames (history before)) turn

theorem Obeys.run {World : Type} [Clock World] [Line World] [Journal World] [Listener World]
    (config : Config) (world : World) (moves : List (Move World)) :
    Obeys config ((Session.start config world).run moves) := by
  refine Session.run_induction ?_ (fun _ _ obeys => obeys) ?_ moves
  · refine ⟨⟨(Framed.initial config).2, rfl, rfl⟩, fun before turn after place => ?_⟩
    exact absurd place.symm (List.append_ne_nil_of_right_ne_nil _ (List.cons_ne_nil _ _))
  intro session call answer effects next world ⟨attends, turns⟩ performed
  have keeps := attends.performed performed
  refine ⟨?_, fun before turn after place => ?_⟩
  · have past : history (session.turns ++ [⟨call, answer, effects, next⟩]) =
        session.history ++ effects := by
      rw [history_append, history_cons, history_nil, List.append_nil]
      rfl
    rw [assigned, List.foldl_append, Session.history, past, Moment.ofHistory, List.foldl_append,
      frames_append]
    exact keeps.attends
  · rcases List.eq_nil_or_concat after with rfl | ⟨most, last, rfl⟩
    · obtain ⟨rfl, same⟩ := List.append_inj' place rfl
      obtain rfl := List.singleton_inj.mp same
      exact keeps
    · rw [List.concat_eq_append, ← List.cons_append, ← List.append_assoc] at place
      exact turns before turn most (List.append_inj' place rfl).1

/-- However calls on a link follow one another, and whatever its clock, its line and its application
do, a frame that ends while no reply is awaited is judged by its own bytes, all of them, and by the
id that the node has then. It makes no difference what came before: frames, bytes that the buffer
had no room for, requests, or faults of the line. -/
theorem every_frame_is_judged_alone {World : Type} [Clock World] [Line World] [Journal World]
    [Listener World] (config : Config) (world : World) (moves : List (Move World)) :
    JudgesAlone config ((Session.start config world).run moves) := by
  obtain ⟨attends, turns⟩ := Obeys.run config world moves
  generalize (Session.start config world).run moves = session at attends turns
  have moment : ∀ past effects : List Effect, effects.foldl (Moment.next config.interByteTimeout)
        (Moment.ofHistory config.interByteTimeout past) =
      { segments := Segments.ofHistory config.interByteTimeout (past ++ effects)
        waiting := awaiting (past ++ effects) } := by
    intro past effects
    rw [← Moment.ofHistory_eq, Moment.ofHistory, Moment.ofHistory, List.foldl_append]
  refine ⟨attends.slaveId, ?_, ?_, ?_⟩
  · intro before turn after place early effect late there free segment ends
    have owes := (turns before turn after place).owes.owes_at there
    rw [moment] at owes
    exact owes free segment ends
  · intro before turn after place early report late there request
    have judges := (turns before turn after place).judges.allowed_at there
    rw [moment] at judges
    exact judges report rfl request
  · intro before turn after place unassigned report member ours
    obtain ⟨early, late, there⟩ := List.append_of_mem member
    have judges := (turns before turn after place).judges.allowed_at there
    obtain ⟨-, segment, -, same⟩ := judges report rfl (by rw [ours]; rfl)
    rw [same, unassigned] at ours
    exact verdict_unassigned segment ours

end Link

end BusNode
