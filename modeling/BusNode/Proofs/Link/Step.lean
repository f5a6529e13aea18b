/-
This file says what a link can do in one step, whatever its world answers. Each part of a step is a
relation between the link before, the effects on the world, and the link after, with one case for
each way in which the part can go. For every part there is one theorem which says that running the
part goes one of these ways; what holds of all runs is derived from the relations alone.
-/
import BusNode.Link.Service
import BusNode.Proofs.Effect

namespace BusNode.Link

/-! ### Links after a part of a step -/

/-- The link when it has given up on a reply. -/
def expired (link : Link) : Link :=
  { link with waitingSince := none, stats := link.stats.count .replyTimedOut }

/-- The link when it has classified the frame that came in. -/
def dispatched (link : Link) : Link :=
  { link with
    waitingSince := none
    stats := (link.stats.countFrame link.inbound.overflow).count link.classify }

/-- The link when it is ready for the first byte of a frame. -/
def cleared (link : Link) : Link := { link with lastByteAt := none, inbound := .empty }

/-- The link when a byte has come in at a time. -/
def stored (byte : UInt8) (now : UInt32) (link : Link) : Link :=
  { link with inbound := link.inbound.write [byte], lastByteAt := some now }

/-- The link when the line has failed it. -/
def failed (link : Link) : Link := { link with stats := link.stats.countLineError }

/-- What the link notes before it reports the frame that came in. -/
def dispatchNotes (link : Link) : List Effect :=
  Effect.noteIf link.config.packetLogging
      (.packet "recv" link.inbound.slaveId? link.inbound.bytes) ++
    Effect.noteIf link.isBusy .waitCleared ++
    [.note (.frameReceived link.classify link.inbound.length)]

/-- What the link notes and reports when it classifies the frame that came in. -/
def dispatchEffects (link : Link) : List Effect :=
  link.dispatchNotes ++ [.report { outcome := link.classify, frame := link.inbound.bytes }]

theorem dispatchNotes_incidental (link : Link) :
    ∀ effect ∈ link.dispatchNotes, effect.incidental = true := by
  unfold dispatchNotes
  rw [List.forall_mem_append, List.forall_mem_append, Effect.forall_mem_noteIf,
    Effect.forall_mem_noteIf]
  exact ⟨⟨fun _ => rfl, fun _ => rfl⟩, List.forall_mem_singleton.mpr rfl⟩

/-! ### What the class of a frame says -/

/-- While a reply is awaited every frame counts as the reply, and otherwise none does. -/
theorem isReply_classify (link : Link) : link.classify.isReply = link.isBusy := by
  cases busy : link.isBusy with
  | true =>
    rw [classify, busy, if_pos rfl, classifyReply]
    cases link.checkReply <;> rfl
  | false =>
    rw [classify, busy, if_neg Bool.false_ne_true, classifyRequest]
    cases link.inbound.check with
    | error fault => rfl
    | ok _ =>
      by_cases ours : link.inbound.slaveId? = some link.config.slaveId <;>
        simp [ours, Outcome.isReply]

theorem classify_ne_replyTimedOut (link : Link) : link.classify ≠ .replyTimedOut := by
  intro timedOut
  have busy : link.isBusy = true := by
    rw [← isReply_classify, timedOut]
    rfl
  rw [classify, busy, if_pos rfl, classifyReply] at timedOut
  cases answer : link.checkReply <;> simp [answer] at timedOut

/-- A frame is accepted as the reply only by a link that awaits one, and only if it lost no bytes
and is the answer to the frame that went out last. -/
theorem classify_eq_replyAccepted {link : Link} (accepted : link.classify = .replyAccepted) :
    link.isBusy = true ∧ link.inbound.overflow = false ∧
      Reply.check link.outbound.bytes link.inbound.bytes = .ok () := by
  have busy : link.isBusy = true := by
    rw [← isReply_classify, accepted]
    rfl
  rw [classify, busy, if_pos rfl, classifyReply] at accepted
  cases overflow : link.inbound.overflow with
  | true => simp [checkReply, overflow] at accepted
  | false =>
    rw [checkReply, overflow, if_neg Bool.false_ne_true] at accepted
    cases answer : Reply.check link.outbound.bytes link.inbound.bytes with
    | error fault => simp [answer] at accepted
    | ok _ => exact ⟨busy, rfl, rfl⟩

/-! ### The ways in which a step can go -/

/-- How a link looks after the reply that it awaits. -/
inductive Deadline : Link → List Effect → Link → Prop where
  | idle {link : Link} (idle : link.waitingSince = none) : Deadline link [] link
  | early {link : Link} {since now : UInt32} (waiting : link.waitingSince = some since)
      (early : Clock.elapsed now since link.config.replyTimeout = false) :
      Deadline link [.millis now] link
  | late {link : Link} {since now : UInt32} (waiting : link.waitingSince = some since)
      (late : Clock.elapsed now since link.config.replyTimeout = true) :
      Deadline link
        [.millis now, .note .waitTimedOut, .report { outcome := .replyTimedOut, frame := [] }]
        link.expired

/-- How a link looks for the end of the frame that is coming in. -/
inductive Silence : Link → List Effect → Link → Prop where
  | idle {link : Link} (idle : link.lastByteAt = none) : Silence link [] link
  | soon {link : Link} {last now : UInt32} (receiving : link.lastByteAt = some last)
      (soon : Clock.elapsed now last link.config.interByteTimeout = false) :
      Silence link [.micros now] link
  | blank {link : Link} {last now : UInt32} (receiving : link.lastByteAt = some last)
      (lapsed : Clock.elapsed now last link.config.interByteTimeout = true)
      (blank : link.inbound.isEmpty = true) :
      Silence link [.micros now, .note .silence] link.cleared
  | frame {link : Link} {last now : UInt32} (receiving : link.lastByteAt = some last)
      (lapsed : Clock.elapsed now last link.config.interByteTimeout = true)
      (frame : link.inbound.isEmpty = false) :
      Silence link ([.micros now, .note .silence] ++ link.dispatchEffects) link.dispatched.cleared

/-- How a link takes a byte from the line. -/
inductive Reception : Link → List Effect → Link → Prop where
  | nothing {link : Link} : Reception link [.read (.ok none)] link
  | failed {link : Link} (error : Error) :
      Reception link [.read (.error error), .note (.receiveFailed error)] link.failed
  | byte {link : Link} (byte : UInt8) (now : UInt32) :
      Reception link
        ([.read (.ok (some byte))] ++
          Effect.noteIf (!link.inbound.takes [byte] && !link.inbound.overflow)
            (.receiveOverflow Adu.maxLength) ++
          [.micros now])
        (link.stored byte now)

/-- How a step goes: its three parts in their order. -/
inductive Serviced : Link → List Effect → Link → Prop where
  | parts {link waited framed next : Link} {early middle late : List Effect}
      (deadline : Deadline link early waited) (silence : Silence waited middle framed)
      (reception : Reception framed late next) :
      Serviced link (early ++ middle ++ late) next

/-! ### A step goes one of these ways -/

section Parts

variable {World : Type} [Clock World] [Line World] [Journal World] [Listener World]

theorem expire_traces (link : Link) :
    Traces World link.expire link.expire fun next effects =>
      effects = [.note .waitTimedOut, .report { outcome := .replyTimedOut, frame := [] }] ∧
        next = link.expired := by
  unfold expire
  refine .bind (.note _) ?_
  rintro _ _ rfl
  refine .bind (.report _) ?_
  rintro _ _ rfl
  exact .pure ⟨rfl, rfl⟩

theorem dispatch_traces (link : Link) :
    Traces World link.dispatch link.dispatch fun next effects =>
      effects = link.dispatchEffects ∧ next = link.dispatched := by
  unfold dispatch
  refine .bind (.noteIf _ _) ?_
  rintro _ _ rfl
  refine .bind (.noteIf _ _) ?_
  rintro _ _ rfl
  refine .bind (.note _) ?_
  rintro _ _ rfl
  refine .bind (.report _) ?_
  rintro _ _ rfl
  exact .pure ⟨by simp [dispatchEffects, dispatchNotes], rfl⟩

theorem endFrame_traces (link : Link) :
    Traces World link.endFrame link.endFrame fun next effects =>
      (link.inbound.isEmpty = true ∧ effects = [.note .silence] ∧ next = link.cleared) ∨
        (link.inbound.isEmpty = false ∧ effects = .note .silence :: link.dispatchEffects ∧
          next = link.dispatched.cleared) := by
  unfold endFrame
  refine .bind (.note _) ?_
  rintro _ _ rfl
  cases blank : link.inbound.isEmpty with
  | true =>
    have kept : Traces World (pure link) (pure link) fun next effects =>
        effects = [] ∧ next = link := .pure ⟨rfl, rfl⟩
    refine .bind kept ?_
    rintro _ _ ⟨rfl, rfl⟩
    exact .pure (Or.inl ⟨rfl, rfl, rfl⟩)
  | false =>
    refine .bind (dispatch_traces link) ?_
    rintro _ _ ⟨rfl, rfl⟩
    exact .pure (Or.inr ⟨rfl, by simp, rfl⟩)

theorem checkDeadline_traces (link : Link) :
    Traces World link.checkDeadline link.checkDeadline fun next effects =>
      Deadline link effects next := by
  unfold checkDeadline
  cases waiting : link.waitingSince with
  | none => exact .pure (.idle waiting)
  | some since =>
    refine .bind .millis ?_
    rintro now _ rfl
    cases lapsed : Clock.elapsed now since link.config.replyTimeout with
    | false => exact .pure (.early waiting lapsed)
    | true =>
      refine (expire_traces link).mono ?_
      rintro next effects ⟨rfl, rfl⟩
      exact .late waiting lapsed

theorem checkSilence_traces (link : Link) :
    Traces World link.checkSilence link.checkSilence fun next effects =>
      Silence link effects next := by
  unfold checkSilence
  cases receiving : link.lastByteAt with
  | none => exact .pure (.idle receiving)
  | some last =>
    refine .bind .micros ?_
    rintro now _ rfl
    cases lapsed : Clock.elapsed now last link.config.interByteTimeout with
    | false => exact .pure (.soon receiving lapsed)
    | true =>
      refine (endFrame_traces link).mono ?_
      rintro next effects (⟨blank, rfl, rfl⟩ | ⟨frame, rfl, rfl⟩)
      · exact .blank receiving lapsed blank
      · exact .frame receiving lapsed frame

theorem receive_traces (link : Link) :
    Traces World link.receive link.receive fun next effects => Reception link effects next := by
  unfold receive
  refine .bind .read ?_
  rintro answer _ rfl
  match answer with
  | .error error =>
    refine .bind (.note _) ?_
    rintro _ _ rfl
    exact .pure (.failed error)
  | .ok none => exact .pure .nothing
  | .ok (some byte) =>
    refine .bind (.noteIf _ _) ?_
    rintro _ _ rfl
    refine .bind .micros ?_
    rintro now _ rfl
    refine .pure ?_
    rw [← List.append_assoc]
    exact .byte byte now

/-- Every step of a link goes one of the ways that `Serviced` lists. -/
theorem service_traces (link : Link) :
    Traces World link.service link.service fun next effects => Serviced link effects next := by
  unfold service
  refine .bind (checkDeadline_traces link) fun waited early deadline => ?_
  refine .bind (checkSilence_traces waited) fun framed middle silence => ?_
  refine (receive_traces framed).mono fun next late reception => ?_
  rw [← List.append_assoc]
  exact .parts deadline silence reception

end Parts

end BusNode.Link
