/-
This file says what a link reports of what it hears, in a row of steps in which no reply comes too
late. Every segment that ends is reported once, and is judged by its own bytes alone: as a request,
except that the first one after a request was sent is judged as the reply to it.
-/
import BusNode.Proofs.Checksum.Sealing
import BusNode.Proofs.Link.Arrival
import BusNode.Proofs.Link.Lateness

namespace BusNode

/-! ### Frames with their checksum -/

theorem Adu.slaveId?_append {bytes rest : List UInt8} (long : 0 < bytes.length) :
    slaveId? (bytes ++ rest) = slaveId? bytes := by
  rw [slaveId?, slaveId?, List.getElem?_append_left long]

/-- A frame that got its checksum passes the checks, if it is long enough and names a slave. -/
theorem Adu.check_append_trailer {bytes : List UInt8} {id : UInt8} (long : 3 ≤ bytes.length)
    (named : slaveId? bytes = some id) (valid : isSlaveId id = true) :
    check (bytes ++ Checksum.trailer bytes) = .ok () := by
  have whole : ¬ (bytes ++ Checksum.trailer bytes).length < minLength := by
    rw [List.length_append, Checksum.length_trailer, Nat.not_lt]
    exact Nat.add_le_add_right long 2
  rw [check, if_neg whole, slaveId?_append (by omega), named, Option.all_some, valid, if_pos rfl,
    Checksum.holds_append_trailer, if_pos rfl]

namespace Link

/-! ### Judging a segment -/

/-- What a segment counts as on its own, for a node with an id. -/
def judgeRequest (id : UInt8) (segment : List UInt8) : Outcome :=
  if Adu.maxLength < segment.length then .requestInvalid .overflow
  else
    match Adu.check segment with
    | .error fault => .requestInvalid fault
    | .ok () => if Adu.slaveId? segment = some id then .requestForUs else .requestForOther

/-- What a segment counts as while the reply to a request is awaited. -/
def judgeReply (request segment : List UInt8) : Outcome :=
  if Adu.maxLength < segment.length then .replyRefused (.frame .overflow)
  else
    match Reply.check request segment with
    | .ok () => .replyAccepted
    | .error fault => .replyRefused fault

/-- Of a frame that got its checksum only the slave matters that it names. -/
theorem judgeRequest_append_trailer {bytes : List UInt8} {id named : UInt8}
    (long : 3 ≤ bytes.length) (fits : bytes.length + Checksum.trailerLength ≤ Adu.maxLength)
    (slave : Adu.slaveId? bytes = some named) (valid : Adu.isSlaveId named = true) :
    judgeRequest id (bytes ++ Checksum.trailer bytes) =
      if named = id then .requestForUs else .requestForOther := by
  have short : ¬ Adu.maxLength < (bytes ++ Checksum.trailer bytes).length := by
    rw [List.length_append, Checksum.length_trailer]
    exact Nat.not_lt.mpr fits
  rw [judgeRequest, if_neg short, Adu.check_append_trailer long slave valid,
    Adu.slaveId?_append (by omega), slave]
  simp only [Option.some.injEq]

/-- A link judges the segment that is open, however little of it its buffer holds. -/
theorem Cuts.classify {limit : UInt32} {link : Link} {segments : Segments}
    {shown : List (List UInt8)} (cuts : Cuts limit link segments shown) :
    link.classify = if link.isBusy then judgeReply link.outbound.bytes segments.opened
      else judgeRequest link.config.slaveId segments.opened := by
  have overflow := cuts.logs.overflow
  by_cases long : Adu.maxLength < segments.opened.length
  · rw [decide_eq_true long] at overflow
    rw [Link.classify, classifyReply, checkReply, classifyRequest, FrameBuffer.check, overflow,
      if_pos rfl, if_pos rfl, judgeReply, judgeRequest, if_pos long, if_pos long]
  · rw [decide_eq_false long] at overflow
    have whole := cuts.logs.bytes_eq overflow
    have reply : link.classifyReply = judgeReply link.outbound.bytes segments.opened := by
      cases answer : Reply.check link.outbound.bytes segments.opened <;>
        simp [classifyReply, checkReply, judgeReply, overflow, whole, long, answer]
    have request : link.classifyRequest = judgeRequest link.config.slaveId segments.opened := by
      cases answer : Adu.check segments.opened <;>
        simp [classifyRequest, judgeRequest, FrameBuffer.check, FrameBuffer.slaveId?, overflow,
          whole, long, answer]
    rw [Link.classify, reply, request]

/-- A link whose buffer is empty may as well never have read anything. -/
theorem Cuts.afresh {limit : UInt32} {link : Link} {segments : Segments}
    {shown : List (List UInt8)} (cuts : Cuts limit link segments shown)
    (blank : link.inbound.bytes = []) : Cuts limit link {} [] := by
  have closed : segments.opened = [] :=
    (cuts.logs.isEmpty_iff (by decide)).mp (List.isEmpty_iff.mpr blank)
  have idle : link.lastByteAt = none := cuts.closed.mp closed
  have logs := cuts.logs
  rw [closed] at logs
  exact ⟨cuts.limited, logs, idle.symm, ⟨fun _ => idle, fun _ => rfl⟩,
    fun _ member => (List.not_mem_nil member).elim, rfl⟩

theorem reports_noteIf (reason : Bool) (notice : Notice) :
    reports (Effect.noteIf reason notice) = [] := by
  cases reason <;> rfl

/-- A link that awaits no reply, and holds no part of a frame. -/
structure Rests (link : Link) : Prop where
  free : link.isBusy = false
  blank : link.inbound.bytes = []

theorem Rests.waitingSince {link : Link} (rests : link.Rests) : link.waitingSince = none := by
  simpa [isBusy] using rests.free

/-! ### A link that listens -/

/-- How a link begins to listen: its settings, the frame that it sent last, and since when it awaits
the reply to that frame, if it does. -/
structure Hearing where
  config : Config
  request : List UInt8
  since : Option UInt32

namespace Hearing

/-- The report of a segment that ends while a reply is or is not awaited. -/
def report (hearing : Hearing) (awaited : Bool) (segment : List UInt8) : Report where
  outcome :=
    if awaited then judgeReply hearing.request segment
    else judgeRequest hearing.config.slaveId segment
  frame := segment.take Adu.maxLength

/-- The reports of the segments that end, the earliest first. Only the first one can be a reply. -/
def reports (hearing : Hearing) : List (List UInt8) → List Report
  | [] => []
  | first :: rest => hearing.report hearing.since.isSome first :: rest.map (hearing.report false)

theorem reports_concat (hearing : Hearing) (ended : List (List UInt8)) (segment : List UInt8) :
    hearing.reports (ended ++ [segment]) = hearing.reports ended ++
      [hearing.report (if ended = [] then hearing.since.isSome else false) segment] := by
  cases ended with
  | nil => rfl
  | cons first rest => simp [reports]

/-- Whether some effect finds the reply overdue that is awaited from the beginning. -/
def overdue (hearing : Hearing) (effects : List Effect) : Bool :=
  hearing.since.any fun since => effects.any (Effect.overdue since hearing.config.replyTimeout)

theorem overdue_append (hearing : Hearing) (effects later : List Effect) :
    hearing.overdue (effects ++ later) = (hearing.overdue effects || hearing.overdue later) := by
  cases since : hearing.since <;> simp [overdue, since]

theorem overdue_eq_false {hearing : Hearing} {effects : List Effect}
    (timely : ∀ since, hearing.since = some since → ∀ effect ∈ effects,
      effect.overdue since hearing.config.replyTimeout = false) :
    hearing.overdue effects = false := by
  cases since : hearing.since with
  | none => rw [overdue, since, Option.any_none]
  | some begun =>
    rw [overdue, since, Option.any_some, List.any_eq_false]
    intro effect member
    rw [timely begun since effect member]
    exact Bool.false_ne_true

/-- The segments of what was heard. -/
def segments (hearing : Hearing) (heard : List Effect) : Segments :=
  Segments.ofHistory hearing.config.interByteTimeout heard

theorem segments_append (hearing : Hearing) (heard effects : List Effect) :
    hearing.segments (heard ++ effects) =
      effects.foldl (Segments.next hearing.config.interByteTimeout) (hearing.segments heard) :=
  List.foldl_append

end Hearing

/-- Where a link stands that listens: the reply is awaited until the first segment has ended, and
every segment that ended was reported. -/
structure Hears (hearing : Hearing) (link : Link) (heard : List Effect) : Prop where
  cuts : Cuts hearing.config.interByteTimeout link (hearing.segments heard) (frames heard)
  config : link.config = hearing.config
  outbound : link.outbound.bytes = hearing.request
  waits : link.waitingSince = if (hearing.segments heard).ended = [] then hearing.since else none
  reports : reports heard = hearing.reports (hearing.segments heard).ended

namespace Hears

variable {hearing : Hearing} {link next : Link} {heard effects : List Effect}

/-- A link with an empty buffer begins to listen. -/
theorem begin {limit : UInt32} {segments : Segments} {shown : List (List UInt8)}
    (cuts : Cuts limit link segments shown) (blank : link.inbound.bytes = []) :
    Hears ⟨link.config, link.outbound.bytes, link.waitingSince⟩ link [] where
  cuts := by
    have afresh := cuts.afresh blank
    rwa [← cuts.limited] at afresh
  config := rfl
  outbound := rfl
  waits := rfl
  reports := rfl

/-- Effects in which no segment ends change nothing about what is awaited and reported. -/
theorem quiet (hears : Hears hearing link heard)
    (continues : Continues hearing.config.interByteTimeout (hearing.segments heard) (frames heard)
      effects next)
    (ended : (hearing.segments (heard ++ effects)).ended = (hearing.segments heard).ended)
    (unreported : Link.reports effects = []) (config : next.config = link.config)
    (outbound : next.outbound = link.outbound) (waits : next.waitingSince = link.waitingSince) :
    Hears hearing next (heard ++ effects) where
  cuts := by
    rw [Hearing.segments_append, frames_append]
    exact continues.2
  config := config.trans hears.config
  outbound := by rw [outbound, hears.outbound]
  waits := by rw [waits, ended, hears.waits]
  reports := by rw [reports_append, unreported, List.append_nil, ended, hears.reports]

theorem isBusy (hears : Hears hearing link heard) :
    link.isBusy = if (hearing.segments heard).ended = [] then hearing.since.isSome else false := by
  rw [Link.isBusy, hears.waits]
  split <;> rfl

/-- The report that a link gives of the segment that is open. -/
theorem report (hears : Hears hearing link heard) :
    ({ outcome := link.classify, frame := link.inbound.bytes } : Report) =
      hearing.report
        (if (hearing.segments heard).ended = [] then hearing.since.isSome else false)
        (hearing.segments heard).opened := by
  rw [Hearing.report, hears.cuts.classify, hears.cuts.logs.bytes, ← hears.isBusy, hears.outbound,
    hears.config]

theorem deadline (hears : Hears hearing link heard) (timely : hearing.overdue effects = false)
    (deadline : Deadline link effects next) : Hears hearing next (heard ++ effects) := by
  have continues := hears.cuts.deadline deadline
  cases deadline with
  | idle _ => exact hears.quiet continues (by rw [List.append_nil]) rfl rfl rfl rfl
  | early _ _ =>
    exact hears.quiet continues (by rw [Hearing.segments_append]; rfl) rfl rfl rfl rfl
  | @late since now begun late =>
    -- The reply would be overdue by the reading with which the step found it so.
    rw [hears.waits] at begun
    split at begun
    · rw [hears.config] at late
      simp [Hearing.overdue, begun, Effect.overdue, late] at timely
    · cases begun

theorem silence (hears : Hears hearing link heard) (silence : Silence link effects next) :
    Hears hearing next (heard ++ effects) := by
  have continues := (hears.cuts.silence silence).1
  cases silence with
  | idle _ => exact hears.quiet continues (by rw [List.append_nil]) rfl rfl rfl rfl
  | @soon last now receiving soon =>
    rw [hears.config] at soon
    have tested := Segments.next_of_soon (hears.cuts.stamp.trans receiving) soon
    refine hears.quiet continues ?_ rfl rfl rfl rfl
    rw [Hearing.segments_append, List.foldl_cons, List.foldl_nil, tested]
  | @blank last now receiving lapsed blank =>
    have closed := (hears.cuts.logs.isEmpty_iff (by decide)).mp blank
    rw [hears.cuts.closed.mp closed] at receiving
    cases receiving
  | @frame last now receiving lapsed frame =>
    rw [hears.config] at lapsed
    have closed := Segments.next_of_lapsed (hears.cuts.stamp.trans receiving) lapsed
    have dispatched : link.dispatchEffects.foldl (Segments.next hearing.config.interByteTimeout)
        (hearing.segments heard).close = (hearing.segments heard).close :=
      (dispatchEffects_frames _ hears.cuts.report).2.1
    have segments : hearing.segments
        (heard ++ ([.micros now, .note .silence] ++ link.dispatchEffects)) =
          (hearing.segments heard).close := by
      rw [Hearing.segments_append, List.foldl_append, List.foldl_cons, closed]
      exact dispatched
    have ended : (hearing.segments heard).close.ended ≠ [] := List.append_ne_nil_of_right_ne_nil _
      (List.cons_ne_nil _ _)
    refine ⟨?_, hears.config, hears.outbound, ?_, ?_⟩
    · rw [Hearing.segments_append, frames_append]
      exact continues.2
    · rw [segments, if_neg ended]
      rfl
    · rw [segments, Segments.close, Hearing.reports_concat, ← hears.reports, ← hears.report,
        reports_append, reports_append, dispatchEffects, reports_append, reports_dispatchNotes]
      rfl

/-- A step that takes bytes in ends no segment. -/
theorem reception (hears : Hears hearing link heard)
    (ready : (hearing.segments heard).opened = [] ∨ (hearing.segments heard).tested = true)
    (reception : Reception link effects next) : Hears hearing next (heard ++ effects) := by
  have continues := hears.cuts.reception ready reception
  cases reception with
  | nothing =>
    exact hears.quiet continues (by rw [Hearing.segments_append]; rfl) rfl rfl rfl rfl
  | failed error =>
    exact hears.quiet continues (by rw [Hearing.segments_append]; rfl) rfl rfl rfl rfl
  | byte byte now =>
    have notes : ∀ effect ∈ Effect.noteIf (!link.inbound.takes [byte] && !link.inbound.overflow)
        (.receiveOverflow Adu.maxLength), effect.unframed = true :=
      Effect.forall_mem_noteIf.mpr fun _ => rfl
    refine hears.quiet continues ?_ ?_ rfl rfl rfl
    · rw [Hearing.segments_append, Segments.foldl_stored _ byte now notes]
    · rw [reports_append, reports_append, reports_noteIf]
      rfl

/-- A step keeps to what was heard, unless it finds the reply overdue. -/
theorem serviced (hears : Hears hearing link heard) (timely : hearing.overdue effects = false)
    (serviced : Serviced link effects next) : Hears hearing next (heard ++ effects) := by
  obtain ⟨deadline, silence, reception⟩ := serviced
  rw [List.append_assoc, hearing.overdue_append, Bool.or_eq_false_iff] at timely
  have waited := hears.deadline timely.1 deadline
  have framed := waited.silence silence
  have ready := (waited.cuts.silence silence).2
  rw [← Hearing.segments_append] at ready
  rw [← List.append_assoc, ← List.append_assoc]
  exact framed.reception ready reception

theorem rounds (hears : Hears hearing link heard) (timely : hearing.overdue effects = false)
    (rounds : Rounds link effects next) : Hears hearing next (heard ++ effects) := by
  induction rounds generalizing heard with
  | done => rwa [List.append_nil]
  | round serviced _ inductionHypothesis =>
    rw [hearing.overdue_append, Bool.or_eq_false_iff] at timely
    rw [← List.append_assoc]
    exact inductionHypothesis (hears.serviced timely.1 serviced) timely.2

/-- Whoever hears one frame reports that one frame, and is at rest again. -/
theorem takesIn {frame : List UInt8} (hears : Hears hearing link heard)
    (takesIn : Link.takesIn hearing.config.interByteTimeout frame heard = true) :
    Link.reports heard = [hearing.report hearing.since.isSome frame] ∧ link.Rests := by
  obtain ⟨ended, opened⟩ : (hearing.segments heard).ended = [frame] ∧
      (hearing.segments heard).opened = [] := segments_of_takesIn takesIn
  have logs := hears.cuts.logs.bytes
  rw [opened, List.take_nil] at logs
  refine ⟨by rw [hears.reports, ended]; rfl, ?_, logs⟩
  rw [hears.isBusy, ended, if_neg (List.cons_ne_nil _ _)]

/-- Whoever awaits no reply and hears nothing reports nothing. -/
theorem unread (hears : Hears hearing link heard) (free : hearing.since = none)
    (unread : received heard = []) : Link.reports heard = [] ∧ link.Rests := by
  obtain ⟨ended, opened⟩ : (hearing.segments heard).ended = [] ∧
      (hearing.segments heard).opened = [] := segments_of_unread unread
  have logs := hears.cuts.logs.bytes
  rw [opened, List.take_nil] at logs
  refine ⟨by rw [hears.reports, ended]; rfl, ?_, logs⟩
  rw [hears.isBusy, ended, if_pos rfl, free]
  rfl

end Hears

end Link

end BusNode
