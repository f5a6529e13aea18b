/-
This file proves that a link moves, loses and repeats no byte when it frames what it reads. The
bytes that came in are cut into segments at the silences between them, by a rule that looks only at
what was read and at the clock. The link ends the same segments at the same places, and reports each
of them once, as far as its buffer reaches.
-/
import BusNode.Proofs.Frame.Log
import BusNode.Proofs.Link.Tally

namespace BusNode

/-! ### Cutting a history into segments -/

/-- The byte that an effect brought in, if it did. -/
def Effect.byte? : Effect → Option UInt8
  | .read (.ok (some byte)) => some byte
  | _ => none

/-- Whether an effect is a read, whatever came of it. -/
def Effect.reads : Effect → Bool
  | .read _ => true
  | _ => false

/-- Whether an effect has no part in the framing of bytes. -/
def Effect.unframed : Effect → Bool
  | .read _ => false
  | .micros _ => false
  | .report _ => false
  | _ => true

/-- The frame of a report, unless it is that no reply came in time. -/
def Effect.frame? : Effect → Option (List UInt8)
  | .report given => if given.outcome = .replyTimedOut then none else some given.frame
  | _ => none

theorem Effect.unframed_of_incidental {effect : Effect} (incidental : effect.incidental = true) :
    effect.unframed = true := by
  cases effect with
  | read | micros | report => cases incidental
  | _ => rfl

/-- The bytes that came in, cut at the silences between them. -/
structure Segments where
  /-- The segments that have ended, the earliest first. -/
  ended : List (List UInt8) := []
  /-- The segment that is still open. -/
  opened : List UInt8 := []
  /-- What the clock said when the latest byte was stored, once it was asked. -/
  stamp : Option UInt32 := none
  /-- Whether the clock was asked for the end of the segment since the last read. -/
  tested : Bool := false

namespace Segments

/-- Ends the segment that is open. -/
def close (segments : Segments) : Segments :=
  { ended := segments.ended ++ [segments.opened], opened := [], stamp := none, tested := true }

/-- Takes one more effect into account. The first reading after a byte is the time of that byte.
Any later one ends the segment if more than the limit has passed since. -/
def next (limit : UInt32) (segments : Segments) (effect : Effect) : Segments :=
  match effect with
  | .read (.ok (some byte)) =>
    { segments with opened := segments.opened ++ [byte], stamp := none, tested := false }
  | .read _ => { segments with tested := false }
  | .micros now =>
    match segments.stamp with
    | none => if segments.opened.isEmpty then segments else { segments with stamp := some now }
    | some last =>
      if Clock.elapsed now last limit then segments.close else { segments with tested := true }
  | _ => segments

/-- The segments of a history, if the given silence ends a segment. -/
def ofHistory (limit : UInt32) (history : List Effect) : Segments := history.foldl (next limit) {}

/-- All bytes of the segments, in their order. -/
def bytes (segments : Segments) : List UInt8 := segments.ended.flatten ++ segments.opened

theorem bytes_next (limit : UInt32) (segments : Segments) (effect : Effect) :
    (segments.next limit effect).bytes = segments.bytes ++ effect.byte?.toList := by
  match effect with
  | .read (.ok (some byte)) => simp [next, bytes, Effect.byte?]
  | .read (.ok none) | .read (.error _) => simp [next, bytes, Effect.byte?]
  | .micros now =>
    cases stamp : segments.stamp with
    | none =>
      cases opened : segments.opened.isEmpty <;>
        simp [next, bytes, Effect.byte?, stamp, opened]
    | some last =>
      cases lapsed : Clock.elapsed now last limit <;>
        simp [next, bytes, close, Effect.byte?, stamp, lapsed]
  | .millis _ | .drive _ _ | .write _ _ | .flush _ | .note _ | .report _ =>
    simp [next, Effect.byte?]

theorem next_of_unframed {limit : UInt32} {segments : Segments} {effect : Effect}
    (unframed : effect.unframed = true) : segments.next limit effect = segments := by
  cases effect with
  | read | micros | report => cases unframed
  | _ => rfl

theorem next_of_soon {limit last now : UInt32} {segments : Segments}
    (stamp : segments.stamp = some last) (soon : Clock.elapsed now last limit = false) :
    segments.next limit (.micros now) = { segments with tested := true } := by
  simp [next, stamp, soon]

theorem next_of_lapsed {limit last now : UInt32} {segments : Segments}
    (stamp : segments.stamp = some last) (lapsed : Clock.elapsed now last limit = true) :
    segments.next limit (.micros now) = segments.close := by
  simp [next, stamp, lapsed]

/-- What a report says about the segment that ended last. A reply is accepted only if the segment is
no longer than the buffer. -/
def Shows (segments : Segments) (report : Link.Report) : Prop :=
  ∃ segment, segments.ended.getLast? = some segment ∧ report.frame = segment.take Adu.maxLength ∧
    (report.outcome = .replyAccepted → segment.length ≤ Adu.maxLength)

/-- A read follows a look at the clock, if a segment is open. A report is about the segment that
ended last, or says that no reply came in time. -/
structure Allows (segments : Segments) (effect : Effect) : Prop where
  read : effect.reads = true → segments.opened = [] ∨ segments.tested = true
  report : ∀ report, effect = .report report →
    if report.outcome = .replyTimedOut then report.frame = [] else segments.Shows report

theorem allows_of_unframed {segments : Segments} {effect : Effect}
    (unframed : effect.unframed = true) : segments.Allows effect := by
  cases effect with
  | read | micros | report => cases unframed
  | _ => exact ⟨fun reads => (nomatch reads), fun _ same => (nomatch same)⟩

theorem foldl_of_unframed {limit : UInt32} {effects : List Effect} (segments : Segments)
    (unframed : ∀ effect ∈ effects, effect.unframed = true) :
    effects.foldl (next limit) segments = segments :=
  foldl_of_still fun effect member => next_of_unframed (unframed effect member)

theorem guarded_of_unframed {limit : UInt32} {effects : List Effect} (segments : Segments)
    (unframed : ∀ effect ∈ effects, effect.unframed = true) :
    Guarded (next limit) Allows segments effects :=
  guarded_of_still (fun effect member => next_of_unframed (unframed effect member))
    fun effect member => allows_of_unframed (unframed effect member)

/-- A byte that is stored belongs to the segment that is open, and is the latest one. -/
theorem foldl_stored {limit : UInt32} {notes : List Effect} (segments : Segments) (byte : UInt8)
    (now : UInt32) (unframed : ∀ effect ∈ notes, effect.unframed = true) :
    ([.read (.ok (some byte))] ++ notes ++ [.micros now] : List Effect).foldl (next limit)
        segments =
      { segments with
        opened := segments.opened ++ [byte], stamp := some now, tested := false } := by
  rw [List.foldl_append, List.foldl_append, foldl_of_unframed _ unframed]
  simp [next]

theorem allows_micros (segments : Segments) (now : UInt32) : segments.Allows (.micros now) :=
  ⟨fun reads => (nomatch reads), fun _ same => (nomatch same)⟩

end Segments

namespace Link

/-- The bytes that came in. -/
def received (history : List Effect) : List UInt8 := history.filterMap Effect.byte?

/-- The segments hold the bytes that came in, each at its place. -/
theorem bytes_ofHistory (limit : UInt32) (history : List Effect) :
    (Segments.ofHistory limit history).bytes = received history := by
  have whole : ∀ segments : Segments, (history.foldl (Segments.next limit) segments).bytes =
      segments.bytes ++ received history := by
    induction history with
    | nil => simp [received]
    | cons effect rest inductionHypothesis =>
      intro segments
      rw [List.foldl_cons, inductionHypothesis, Segments.bytes_next, List.append_assoc]
      cases byte : effect.byte? <;> simp [received, byte]
  exact whole {}

/-- The frames that were reported, the earliest first. -/
def frames (history : List Effect) : List (List UInt8) := history.filterMap Effect.frame?

@[simp] theorem frames_append (past effects : List Effect) :
    frames (past ++ effects) = frames past ++ frames effects :=
  List.filterMap_append

theorem frames_of_unframed {effects : List Effect}
    (unframed : ∀ effect ∈ effects, effect.unframed = true) : frames effects = [] := by
  refine List.filterMap_eq_nil_iff.mpr fun effect member => ?_
  have quiet := unframed effect member
  cases effect with
  | report given => cases quiet
  | _ => rfl

/-! ### A link cuts as its history does -/

/-- A link holds the segment that is open, and the frames of those that ended were shown. -/
structure Cuts (limit : UInt32) (link : Link) (segments : Segments)
    (shown : List (List UInt8)) : Prop where
  limited : link.config.interByteTimeout = limit
  logs : link.inbound.Logs segments.opened
  stamp : segments.stamp = link.lastByteAt
  closed : segments.opened = [] ↔ link.lastByteAt = none
  nonempty : ∀ segment ∈ segments.ended, segment ≠ []
  shown : shown = segments.ended.map (List.take Adu.maxLength)

/-- After some effects a link still cuts as they do, and they followed the rules. -/
def Continues (limit : UInt32) (segments : Segments) (shown : List (List UInt8))
    (effects : List Effect) (next : Link) : Prop :=
  Guarded (Segments.next limit) Segments.Allows segments effects ∧
    Cuts limit next (effects.foldl (Segments.next limit) segments) (shown ++ frames effects)

theorem Continues.trans {limit : UInt32} {segments : Segments} {shown : List (List UInt8)}
    {effects later : List Effect} {middle next : Link}
    (first : Continues limit segments shown effects middle)
    (rest : Cuts limit middle (effects.foldl (Segments.next limit) segments)
      (shown ++ frames effects) →
        Continues limit (effects.foldl (Segments.next limit) segments) (shown ++ frames effects)
          later next) :
    Continues limit segments shown (effects ++ later) next := by
  obtain ⟨allowed, cuts⟩ := rest first.2
  refine ⟨(guarded_append _ _ _).mpr ⟨first.1, allowed⟩, ?_⟩
  rw [List.foldl_append, frames_append, ← List.append_assoc]
  exact cuts

/-- Where the segment that ended last is the frame that a link has classified, its report is in
order. -/
theorem dispatchEffects_frames {limit : UInt32} {link : Link} (segments : Segments)
    (shows : segments.Shows { outcome := link.classify, frame := link.inbound.bytes }) :
    Guarded (Segments.next limit) Segments.Allows segments link.dispatchEffects ∧
      link.dispatchEffects.foldl (Segments.next limit) segments = segments ∧
        frames link.dispatchEffects = [link.inbound.bytes] := by
  have notes := fun effect member =>
    Effect.unframed_of_incidental (dispatchNotes_incidental link effect member)
  refine ⟨?_, ?_, ?_⟩
  · rw [dispatchEffects, guarded_append, segments.foldl_of_unframed notes]
    refine ⟨segments.guarded_of_unframed notes, ⟨?_, ?_⟩, trivial⟩
    · intro reads
      cases reads
    · rintro report ⟨⟩
      rw [if_neg (classify_ne_replyTimedOut link)]
      exact shows
  · rw [dispatchEffects, List.foldl_append, segments.foldl_of_unframed notes]
    rfl
  · rw [dispatchEffects, frames_append, frames_of_unframed notes]
    simp [frames, Effect.frame?, classify_ne_replyTimedOut]

namespace Cuts

variable {limit : UInt32} {link next : Link} {segments : Segments} {shown : List (List UInt8)}
  {effects : List Effect}

theorem unframed (cuts : Cuts limit link segments shown)
    (unframed : ∀ effect ∈ effects, effect.unframed = true)
    (baudRate : next.config.baudRate = link.config.baudRate)
    (inbound : next.inbound = link.inbound) (lastByteAt : next.lastByteAt = link.lastByteAt) :
    Continues limit segments shown effects next := by
  refine ⟨segments.guarded_of_unframed unframed, ?_⟩
  rw [segments.foldl_of_unframed unframed, frames_of_unframed unframed, List.append_nil]
  refine ⟨?_, ?_, ?_, ?_, cuts.nonempty, cuts.shown⟩
  · rw [← cuts.limited, Config.interByteTimeout, Config.interByteTimeout, Config.charTime,
      Config.charTime, baudRate]
  · rw [inbound]
    exact cuts.logs
  · rw [lastByteAt]
    exact cuts.stamp
  · rw [lastByteAt]
    exact cuts.closed

theorem retested (cuts : Cuts limit link segments shown) (tested : Bool) :
    Cuts limit link { segments with tested } (shown ++ []) := by
  rw [List.append_nil]
  exact ⟨cuts.limited, cuts.logs, cuts.stamp, cuts.closed, cuts.nonempty, cuts.shown⟩

theorem deadline (cuts : Cuts limit link segments shown) (deadline : Deadline link effects next) :
    Continues limit segments shown effects next := by
  cases deadline with
  | idle _ => exact cuts.unframed (by simp) rfl rfl rfl
  | early _ _ => exact cuts.unframed (by simp [Effect.unframed]) rfl rfl rfl
  | @late _ now _ _ =>
    have noted : Continues limit segments shown [.millis now, .note .waitTimedOut] link :=
      cuts.unframed (by simp [Effect.unframed]) rfl rfl rfl
    refine noted.trans fun cuts => ⟨⟨⟨fun reads => (nomatch reads), ?_⟩, trivial⟩, ?_⟩
    · rintro report ⟨⟩
      rfl
    · obtain ⟨limited, logs, stamp, closed, nonempty, shown⟩ := cuts.retested segments.tested
      exact ⟨limited, logs, stamp, closed, nonempty, shown⟩

/-- The frame that a link has classified is the segment that was open. -/
theorem report (cuts : Cuts limit link segments shown) :
    segments.close.Shows { outcome := link.classify, frame := link.inbound.bytes } := by
  refine ⟨segments.opened, List.getLast?_concat, cuts.logs.bytes, fun accepted => ?_⟩
  have whole := (classify_eq_replyAccepted accepted).2.1
  rw [cuts.logs.overflow, decide_eq_false_iff_not, Nat.not_lt] at whole
  exact whole

/-- When a link has looked for the end of a segment, none is open or the clock was asked. -/
theorem silence (cuts : Cuts limit link segments shown) (silence : Silence link effects next) :
    Continues limit segments shown effects next ∧
      ((effects.foldl (Segments.next limit) segments).opened = [] ∨
        (effects.foldl (Segments.next limit) segments).tested = true) := by
  cases silence with
  | idle idle => exact ⟨cuts.unframed (by simp) rfl rfl rfl, Or.inl (cuts.closed.mpr idle)⟩
  | @soon last now receiving soon =>
    rw [cuts.limited] at soon
    have tested := Segments.next_of_soon (cuts.stamp.trans receiving) soon
    refine ⟨⟨⟨Segments.allows_micros segments now, trivial⟩, ?_⟩, ?_⟩
    · rw [List.foldl_cons, List.foldl_nil, tested]
      exact cuts.retested true
    · rw [List.foldl_cons, List.foldl_nil, tested]
      exact Or.inr rfl
  | @blank last now receiving lapsed blank =>
    -- A byte has come in, so the buffer holds one.
    have closed := (cuts.logs.isEmpty_iff (by decide)).mp blank
    rw [cuts.closed.mp closed] at receiving
    cases receiving
  | @frame last now receiving lapsed frame =>
    rw [cuts.limited] at lapsed
    have ended := Segments.next_of_lapsed (cuts.stamp.trans receiving) lapsed
    obtain ⟨allowed, fold, reported⟩ := dispatchEffects_frames segments.close cuts.report
    have nonempty : segments.opened ≠ [] := by
      intro blank
      rw [(cuts.logs.isEmpty_iff (by decide)).mpr blank] at frame
      cases frame
    have closed : ([.micros now, .note .silence] ++ link.dispatchEffects : List Effect).foldl
        (Segments.next limit) segments = segments.close := by
      rw [List.foldl_append, List.foldl_cons, ended]
      exact fold
    refine ⟨⟨⟨Segments.allows_micros segments now, ?_⟩, ?_⟩, Or.inl ?_⟩
    · rw [ended]
      exact ⟨Segments.allows_of_unframed rfl, allowed⟩
    · rw [closed, frames_append, reported, cuts.shown]
      refine ⟨cuts.limited, FrameBuffer.logs_empty, rfl, ⟨fun _ => rfl, fun _ => rfl⟩, ?_, ?_⟩
      · exact List.forall_mem_append.mpr ⟨cuts.nonempty, List.forall_mem_singleton.mpr nonempty⟩
      · rw [Segments.close, List.map_append, cuts.logs.bytes]
        rfl
    · rw [closed]
      rfl

theorem unread (cuts : Cuts limit link segments shown)
    (ready : segments.opened = [] ∨ segments.tested = true) {answer : Except Error (Option UInt8)}
    (silent : (Effect.read answer).byte? = none) :
    Continues limit segments shown [.read answer] link := by
  have untested : segments.next limit (.read answer) = { segments with tested := false } := by
    match answer with
    | .ok (some _) => cases silent
    | .ok none | .error _ => rfl
  refine ⟨⟨⟨fun _ => ready, fun _ same => (nomatch same)⟩, trivial⟩, ?_⟩
  rw [List.foldl_cons, List.foldl_nil, untested]
  exact cuts.retested false

theorem stored (cuts : Cuts limit link segments shown)
    (ready : segments.opened = [] ∨ segments.tested = true) {byte : UInt8} {now : UInt32}
    {notes : List Effect} (unframed : ∀ effect ∈ notes, effect.unframed = true) :
    Continues limit segments shown ([.read (.ok (some byte))] ++ notes ++ [.micros now])
      (link.stored byte now) := by
  refine ⟨?_, ?_⟩
  · rw [guarded_append, guarded_append]
    exact ⟨⟨⟨⟨fun _ => ready, fun _ same => (nomatch same)⟩, trivial⟩,
      Segments.guarded_of_unframed _ unframed⟩, Segments.allows_micros _ now, trivial⟩
  · have silent : frames ([.read (.ok (some byte))] ++ notes ++ [.micros now]) = [] := by
      rw [frames_append, frames_append, frames_of_unframed unframed]
      rfl
    rw [segments.foldl_stored byte now unframed, silent, List.append_nil]
    refine ⟨cuts.limited, cuts.logs.write [byte], rfl, ?_, cuts.nonempty, cuts.shown⟩
    simp [Link.stored]

theorem reception (cuts : Cuts limit link segments shown)
    (ready : segments.opened = [] ∨ segments.tested = true)
    (reception : Reception link effects next) : Continues limit segments shown effects next := by
  cases reception with
  | nothing => exact cuts.unread ready rfl
  | failed error =>
    have read : Continues limit segments shown [.read (.error error)] link := cuts.unread ready rfl
    exact read.trans fun cuts => cuts.unframed (by simp [Effect.unframed]) rfl rfl rfl
  | byte byte now =>
    refine cuts.stored ready ?_
    rw [Effect.forall_mem_noteIf]
    exact fun _ => rfl

theorem serviced (cuts : Cuts limit link segments shown) (serviced : Serviced link effects next) :
    Continues limit segments shown effects next := by
  obtain ⟨deadline, silence, reception⟩ := serviced
  rw [List.append_assoc]
  refine (cuts.deadline deadline).trans fun cuts => ?_
  obtain ⟨continues, ready⟩ := cuts.silence silence
  exact continues.trans fun cuts => cuts.reception ready reception

theorem load {frame : List UInt8} {result : Except Error Unit}
    (cuts : Cuts limit link segments shown) (load : link.load frame = (result, next)) :
    Cuts limit next segments shown := by
  rw [load_eq load]
  exact ⟨cuts.limited, cuts.logs, cuts.stamp, cuts.closed, cuts.nonempty, cuts.shown⟩

theorem incidental (cuts : Cuts limit link segments shown)
    (incidental : ∀ effect ∈ effects, effect.incidental = true)
    (config : next.config = link.config) (inbound : next.inbound = link.inbound)
    (lastByteAt : next.lastByteAt = link.lastByteAt) :
    Continues limit segments shown effects next :=
  cuts.unframed (fun effect member => Effect.unframed_of_incidental (incidental effect member))
    (by rw [config]) inbound lastByteAt

theorem transmission {bytes : List UInt8} {result : Except Error Unit}
    (cuts : Cuts limit link segments shown)
    (transmission : Transmission bytes link result effects next) :
    Continues limit segments shown effects next := by
  refine cuts.incidental transmission.incidental ?_ ?_ ?_ <;> cases transmission <;> rfl

theorem armed (cuts : Cuts limit link segments shown) (armed : Armed link effects next) :
    Continues limit segments shown effects next := by
  cases armed with
  | awaited now _ => exact cuts.unframed (by simp [Effect.unframed]) rfl rfl rfl
  | unawaited _ => exact cuts.unframed (by simp) rfl rfl rfl

theorem step (cuts : Cuts limit link segments shown) (step : Step link effects next) :
    Continues limit segments shown effects next := by
  cases step with
  | serviced serviced => exact cuts.serviced serviced
  | built frame => exact cuts.incidental (builtEffects_incidental frame) rfl rfl rfl
  | configured _ baudRate _ => exact cuts.unframed (by simp) baudRate rfl rfl
  | refused _ load =>
    rw [load_eq load]
    exact cuts.unframed (by simp) rfl rfl rfl
  | delivered _ load transmission => exact (cuts.load load).transmission transmission
  | requested _ load transmission armed =>
    exact ((cuts.load load).transmission transmission).trans fun cuts => cuts.armed armed

end Cuts

/-- A link has framed what came in during its history. -/
def Framed (limit : UInt32) (link : Link) (past : List Effect) : Prop :=
  Continues limit {} [] past link

theorem Framed.kept (limit : UInt32) : Kept (Framed limit) where
  step framed step := framed.trans fun cuts => cuts.step step
  raw framed transmission := framed.trans fun cuts => cuts.transmission transmission

theorem Framed.initial (config : Config) : Framed config.interByteTimeout { config } [] :=
  ⟨trivial, rfl, FrameBuffer.logs_empty, rfl, ⟨fun _ => rfl, fun _ => rfl⟩, by simp, rfl⟩

theorem Framed.run {World : Type} [Clock World] [Line World] [Journal World] [Listener World]
    (config : Config) (world : World) (moves : List (Move World)) :
    Framed config.interByteTimeout ((Session.start config world).run moves).link
      ((Session.start config world).run moves).history :=
  ((Framed.kept config.interByteTimeout).run (fun _ _ => True) config (Framed.initial config)
    (fun _ _ _ _ _ => trivial) world moves).1

/-! ### Every byte in its segment -/

/-- What it means that a session lost, repeated and moved no byte, if the given silence ends a
segment. -/
structure MovesNoByte {World : Type} (limit : UInt32) (session : Session World) : Prop where
  /-- The segments are the bytes that came in, each at its place. -/
  bytes : (Segments.ofHistory limit session.history).bytes = received session.history
  /-- Every segment that ended was reported once, in its order, up to the capacity of a frame. -/
  ended : frames session.history =
    (Segments.ofHistory limit session.history).ended.map (List.take Adu.maxLength)
  nonempty : ∀ segment ∈ (Segments.ofHistory limit session.history).ended, segment ≠ []
  /-- The segment that is open is pending, up to the same. -/
  pending : session.link.inbound.bytes =
    (Segments.ofHistory limit session.history).opened.take Adu.maxLength
  /-- Between two calls the time of the latest byte of an open segment has been read. -/
  stamped : (Segments.ofHistory limit session.history).stamp = none ↔
    (Segments.ofHistory limit session.history).opened = []
  /-- Where no segment is longer than a frame, the frames and what is pending are all that came
  in. -/
  whole : (∀ segment ∈ (Segments.ofHistory limit session.history).ended,
      segment.length ≤ Adu.maxLength) →
    (Segments.ofHistory limit session.history).opened.length ≤ Adu.maxLength →
      (frames session.history).flatten ++ session.link.inbound.bytes = received session.history
  /-- No byte is read into a segment before the clock was asked whether the segment is over. -/
  asked : ∀ before answer after, session.history = before ++ .read answer :: after →
    (Segments.ofHistory limit before).opened = [] ∨ (Segments.ofHistory limit before).tested = true
  /-- A frame that is reported is the segment that ended last. -/
  reported : ∀ before report after, session.history = before ++ .report report :: after →
    report.outcome ≠ .replyTimedOut → (Segments.ofHistory limit before).Shows report
  /-- The report of an overdue reply carries no bytes. -/
  overdue : ∀ before report after, session.history = before ++ .report report :: after →
    report.outcome = .replyTimedOut → report.frame = []

theorem Framed.whole {limit : UInt32} {link : Link} {past : List Effect}
    (framed : Framed limit link past)
    (ended : ∀ segment ∈ (Segments.ofHistory limit past).ended, segment.length ≤ Adu.maxLength)
    (opened : (Segments.ofHistory limit past).opened.length ≤ Adu.maxLength) :
    (frames past).flatten ++ link.inbound.bytes = received past := by
  obtain ⟨-, cuts⟩ := framed
  have shown : frames past = (Segments.ofHistory limit past).ended := by
    rw [show frames past = (Segments.ofHistory limit past).ended.map (List.take Adu.maxLength) from
      cuts.shown]
    refine (List.map_congr_left fun segment member => ?_).trans (List.map_id _)
    exact List.take_of_length_le (ended segment member)
  have pending : link.inbound.bytes = (Segments.ofHistory limit past).opened :=
    cuts.logs.bytes.trans (List.take_of_length_le opened)
  rw [shown, pending, ← bytes_ofHistory limit past, Segments.bytes]

/-- However calls on a link follow one another, and whatever its clock, its line and its
application do, it moves no byte that comes in from one frame to another, loses none but those
beyond the capacity of a frame, and reports none twice. -/
theorem framing_moves_no_byte {World : Type} [Clock World] [Line World] [Journal World]
    [Listener World] (config : Config) (world : World) (moves : List (Move World)) :
    MovesNoByte config.interByteTimeout ((Session.start config world).run moves) := by
  have framed := Framed.run config world moves
  generalize (Session.start config world).run moves = session at framed
  obtain ⟨allowed, cuts⟩ := framed
  refine ⟨bytes_ofHistory _ _, cuts.shown, cuts.nonempty, cuts.logs.bytes, ?_,
    Framed.whole ⟨allowed, cuts⟩, ?_, ?_, ?_⟩
  · rw [Segments.ofHistory, cuts.stamp]
    exact cuts.closed.symm
  · intro before answer after place
    exact (allowed.allowed_at place).read rfl
  · intro before report after place timely
    have shows := (allowed.allowed_at place).report report rfl
    rw [if_neg timely] at shows
    exact shows
  · intro before report after place late
    have blank := (allowed.allowed_at place).report report rfl
    rw [if_pos late] at blank
    exact blank

end Link

end BusNode
