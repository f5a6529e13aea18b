/-
This file proves that the counters of a link add up. What a link has done can be counted in the
history of its effects and in the answers to its calls, without limit, and each counter shows its
count up to the wrap.

A frame that is longer than the buffer is counted when it ends, and warned of when it loses its
first byte. So the warnings are ahead of the counter while a frame is coming in that has lost bytes.
-/
import BusNode.Proofs.Link.Waiting
import BusNode.Sim.Bench
import BusNode.Sim.Wire

namespace BusNode

/-! ### What is counted -/

/-- Whether an outcome says that a frame was longer than the buffer. -/
def Link.Outcome.saysOverflow : Link.Outcome → Bool
  | .replyRefused fault => fault = .frame .overflow
  | .requestInvalid fault => fault = .overflow
  | _ => false

namespace Effect

/-- Whether an effect reports a frame that came in. -/
def reportsFrame (effect : Effect) : Bool :=
  effect.outcome?.any fun outcome => outcome.kind ≠ .replyTimedOut

/-- Whether an effect reports a frame that was longer than the buffer. -/
def reportsOverflow (effect : Effect) : Bool := effect.outcome?.any Link.Outcome.saysOverflow

/-- Whether an effect warns that the frame that is coming in loses bytes. -/
def warnsOverflow : Effect → Bool
  | .note (.receiveOverflow _) => true
  | _ => false

/-- Whether the line fails to be read. -/
def failsRead : Effect → Bool
  | .read (.error _) => true
  | _ => false

/-- The error that the line raises while it is held for sending. -/
def raised? : Effect → Option Error
  | .drive _ (.error error) | .write _ (.error error) | .flush (.error error) => some error
  | _ => none

end Effect

namespace Link

/-- Whether a call is to send something. -/
def Call.isSend : Call → Bool
  | .service | .setSlaveId _ | .setPacketLogging _ => false
  | .sendRaw _ | .slaveSend .. | .masterSend .. | .writeRegister .. | .readRegisters ..
  | .commandRelay .. => true

/-- Whether a call was answered with an error that the line raised. -/
def failedBy (answer : Answer) (effects : List Effect) : Bool :=
  effects.any fun effect => effect.raised?.any fun error => answer = .refused error

/-- Whether a turn sent a frame. -/
def Turn.sent (turn : Turn) : Bool := turn.call.isSend && turn.answer = .done

/-- Whether a turn was to send a frame and gave the error of the line. -/
def Turn.failed (turn : Turn) : Bool := turn.call.isSend && failedBy turn.answer turn.effects

/-- How many warnings there are in a history that a frame loses bytes. -/
def warnings (history : List Effect) : Nat := history.countP Effect.warnsOverflow

/-- What a link has done, counted without limit. -/
structure Totals where
  framesSent : Nat
  framesReceived : Nat
  reported : Outcome.Kind → Nat
  overflows : Nat
  lineErrors : Nat

/-- What a link has done in some turns. -/
def Totals.ofTurns (turns : List Turn) : Totals where
  framesSent := turns.countP Turn.sent
  framesReceived := (history turns).countP Effect.reportsFrame
  reported := fun kind => Link.reported kind (history turns)
  overflows := (history turns).countP Effect.reportsOverflow
  lineErrors := turns.countP Turn.failed + (history turns).countP Effect.failsRead

/-- No total is more than thirty-two bits hold. -/
structure Totals.Fit (totals : Totals) : Prop where
  framesSent : totals.framesSent < UInt32.size
  framesReceived : totals.framesReceived < UInt32.size
  reported : ∀ kind, totals.reported kind < UInt32.size
  overflows : totals.overflows < UInt32.size
  lineErrors : totals.lineErrors < UInt32.size

/-- Where turns and effects are few, so is all that is counted. -/
theorem Totals.fit_of_few {turns : List Turn}
    (few : turns.length + (history turns).length < UInt32.size) : (Totals.ofTurns turns).Fit := by
  have sent := turns.countP_le_length (p := Turn.sent)
  have failed := turns.countP_le_length (p := Turn.failed)
  have effects (holds : Effect → Bool) := (history turns).countP_le_length (p := holds)
  have unread := effects Effect.failsRead
  refine ⟨?_, ?_, fun kind => ?_, ?_, ?_⟩
  · exact Nat.lt_of_le_of_lt sent (by omega)
  · exact Nat.lt_of_le_of_lt (effects _) (by omega)
  · exact Nat.lt_of_le_of_lt (effects _) (by omega)
  · exact Nat.lt_of_le_of_lt (effects _) (by omega)
  · exact Nat.lt_of_le_of_lt (Nat.add_le_add failed unread) few

/-! ### Reports -/

theorem replyCheck_ne_overflow (request reply : List UInt8) :
    Reply.check request reply ≠ .error (.frame .overflow) := by
  intro refused
  unfold Reply.check at refused
  dsimp only at refused
  split at refused
  · cases refused
  · split at refused
    · cases refused
    · split at refused
      case h_1 fault checked =>
        obtain rfl : fault = .overflow := by simpa using refused
        exact Adu.check_ne_overflow reply checked
      case h_2 =>
        split at refused
        · cases refused
        · split at refused
          · cases refused
          · split at refused <;> cases refused

/-- A frame is said to be longer than the buffer exactly if it lost bytes. -/
theorem saysOverflow_classify (link : Link) :
    link.classify.saysOverflow = link.inbound.overflow := by
  cases busy : link.isBusy with
  | true =>
    rw [classify, busy, if_pos rfl, classifyReply, checkReply]
    cases link.inbound.overflow with
    | true => rfl
    | false =>
      rw [if_neg Bool.false_ne_true]
      cases checked : Reply.check link.outbound.bytes link.inbound.bytes with
      | ok => rfl
      | error fault =>
        have other : fault ≠ .frame .overflow := by
          rintro rfl
          exact replyCheck_ne_overflow _ _ checked
        simpa [Outcome.saysOverflow] using other
  | false =>
    rw [classify, busy, if_neg Bool.false_ne_true, classifyRequest, FrameBuffer.check]
    cases link.inbound.overflow with
    | true => rfl
    | false =>
      rw [if_neg Bool.false_ne_true]
      cases checked : Adu.check link.inbound.bytes with
      | ok => by_cases ours : link.inbound.slaveId? = some link.config.slaveId <;>
          simp [ours, Outcome.saysOverflow]
      | error fault =>
        have other : fault ≠ .overflow := by
          rintro rfl
          exact Adu.check_ne_overflow _ checked
        simpa [Outcome.saysOverflow] using other

/-- Every frame that was reported is of one of five kinds. -/
theorem framesReceived_eq (history : List Effect) :
    history.countP Effect.reportsFrame =
      reported .replyAccepted history + reported .replyRefused history +
        reported .requestForUs history + reported .requestForOther history +
          reported .requestInvalid history := by
  induction history with
  | nil => rfl
  | cons effect rest inductionHypothesis =>
    rw [List.countP_cons, inductionHypothesis]
    simp only [reported_cons]
    cases effect with
    | report given =>
      cases outcome : given.outcome <;>
        simp [Effect.reportsFrame, Effect.reports, Effect.outcome?, outcome, Outcome.kind] <;>
        omega
    | _ => simp [Effect.reportsFrame, Effect.reports, Effect.outcome?]

/-- A frame that was longer than the buffer is refused as a reply or not valid as a request. -/
theorem overflows_le (history : List Effect) :
    history.countP Effect.reportsOverflow ≤
      reported .replyRefused history + reported .requestInvalid history := by
  induction history with
  | nil => exact Nat.le_refl 0
  | cons effect rest inductionHypothesis =>
    rw [List.countP_cons, reported_cons, reported_cons]
    have counted : (if effect.reportsOverflow = true then 1 else 0) ≤
        (if effect.reports .replyRefused = true then 1 else 0) +
          if effect.reports .requestInvalid = true then 1 else 0 := by
      cases effect with
      | report given =>
        cases outcome : given.outcome <;>
          simp [Effect.reportsOverflow, Effect.reports, Effect.outcome?, outcome, Outcome.kind,
            Outcome.saysOverflow] <;> split <;> omega
      | _ => simp [Effect.reportsOverflow, Effect.reports, Effect.outcome?]
    omega

/-! ### What the counters show of a part of a call -/

/-- The counters grow by what was sent, by the sends that failed and by what the effects say, and
the warnings are ahead of the reports by the frame that is coming in. -/
structure Counted (sent failed : Nat) (link : Link) (effects : List Effect) (next : Link) :
    Prop where
  framesSent : next.stats.framesSent = link.stats.framesSent + UInt32.ofNat sent
  framesReceived : next.stats.framesReceived =
    link.stats.framesReceived + UInt32.ofNat (effects.countP Effect.reportsFrame)
  overflows : next.stats.overflows =
    link.stats.overflows + UInt32.ofNat (effects.countP Effect.reportsOverflow)
  lineErrors : next.stats.lineErrors =
    link.stats.lineErrors + UInt32.ofNat (failed + effects.countP Effect.failsRead)
  warned : link.inbound.overflow.toNat + warnings effects =
    effects.countP Effect.reportsOverflow + next.inbound.overflow.toNat

theorem Counted.trans {sent failed sentLater failedLater : Nat} {link middle next : Link}
    {effects later : List Effect} (first : Counted sent failed link effects middle)
    (rest : Counted sentLater failedLater middle later next) :
    Counted (sent + sentLater) (failed + failedLater) link (effects ++ later) next where
  framesSent := by
    rw [rest.framesSent, first.framesSent, UInt32.ofNat_add, UInt32.add_assoc]
  framesReceived := by
    rw [rest.framesReceived, first.framesReceived, List.countP_append, UInt32.ofNat_add,
      UInt32.add_assoc]
  overflows := by
    rw [rest.overflows, first.overflows, List.countP_append, UInt32.ofNat_add, UInt32.add_assoc]
  lineErrors := by
    rw [rest.lineErrors, first.lineErrors, List.countP_append, UInt32.add_assoc,
      ← UInt32.ofNat_add]
    congr 2
    omega
  warned := by
    have early := first.warned
    have late := rest.warned
    unfold warnings at early late ⊢
    rw [List.countP_append, List.countP_append]
    omega

/-- Whether an effect is none that the counters show. -/
def Uncounted (effect : Effect) : Prop :=
  effect.reportsFrame = false ∧ effect.reportsOverflow = false ∧ effect.warnsOverflow = false ∧
    effect.failsRead = false

theorem Counted.of_uncounted {sent failed : Nat} {link next : Link} {effects : List Effect}
    (uncounted : ∀ effect ∈ effects, Uncounted effect)
    (framesSent : next.stats.framesSent = link.stats.framesSent + UInt32.ofNat sent)
    (framesReceived : next.stats.framesReceived = link.stats.framesReceived)
    (overflows : next.stats.overflows = link.stats.overflows)
    (lineErrors : next.stats.lineErrors = link.stats.lineErrors + UInt32.ofNat failed)
    (inbound : next.inbound = link.inbound) : Counted sent failed link effects next := by
  have none (holds : Effect → Bool) (unheld : ∀ effect ∈ effects, holds effect = false) :
      effects.countP holds = 0 :=
    List.countP_eq_zero.mpr fun effect member => by simp [unheld effect member]
  have frames := none Effect.reportsFrame fun effect member => (uncounted effect member).1
  have overflown := none Effect.reportsOverflow fun effect member => (uncounted effect member).2.1
  have warned := none Effect.warnsOverflow fun effect member => (uncounted effect member).2.2.1
  have unread := none Effect.failsRead fun effect member => (uncounted effect member).2.2.2
  refine ⟨framesSent, ?_, ?_, ?_, ?_⟩
  · simp [frames, framesReceived]
  · simp [overflown, overflows]
  · rw [unread, lineErrors, Nat.add_zero]
  · rw [warnings, warned, overflown, inbound, Nat.add_comm]

/-- What only changes a link in other ways shows in no counter. -/
theorem Counted.still {link next : Link} {effects : List Effect}
    (uncounted : ∀ effect ∈ effects, Uncounted effect) (stats : next.stats = link.stats)
    (inbound : next.inbound = link.inbound) : Counted 0 0 link effects next := by
  refine .of_uncounted uncounted ?_ ?_ ?_ ?_ inbound <;> simp [stats]

/-- Outcomes have counters of their own. -/
@[simp] theorem count_apart (outcome : Outcome) (stats : Stats) :
    (stats.count outcome).framesSent = stats.framesSent ∧
      (stats.count outcome).framesReceived = stats.framesReceived ∧
      (stats.count outcome).overflows = stats.overflows ∧
      (stats.count outcome).lineErrors = stats.lineErrors := by
  cases outcome <;> exact ⟨rfl, rfl, rfl, rfl⟩

@[simp] theorem uncounted_micros (now : UInt32) : Uncounted (.micros now) := ⟨rfl, rfl, rfl, rfl⟩

@[simp] theorem uncounted_millis (now : UInt32) : Uncounted (.millis now) := ⟨rfl, rfl, rfl, rfl⟩

theorem uncounted_note {notice : Notice} (other : ∀ capacity, notice ≠ .receiveOverflow capacity) :
    Uncounted (.note notice) := by
  refine ⟨rfl, rfl, ?_, rfl⟩
  cases notice with
  | receiveOverflow capacity => exact absurd rfl (other capacity)
  | _ => rfl

/-! ### The parts of a step -/

theorem Deadline.counted {link next : Link} {effects : List Effect}
    (deadline : Deadline link effects next) : Counted 0 0 link effects next := by
  cases deadline with
  | idle _ => exact .still (by simp) rfl rfl
  | early _ _ => exact .still (by simp) rfl rfl
  | late _ _ =>
    refine .of_uncounted ?_ ?_ rfl rfl ?_ rfl
    · simp [Uncounted, Effect.reportsFrame, Effect.reportsOverflow, Effect.outcome?, Outcome.kind,
        Outcome.saysOverflow, Effect.warnsOverflow, Effect.failsRead]
    · simp [expired]
    · simp [expired]

theorem classify_kind_ne_replyTimedOut (link : Link) : link.classify.kind ≠ .replyTimedOut := by
  have others := classify_ne_replyTimedOut link
  cases outcome : link.classify <;> simp_all [Outcome.kind]

/-- A frame is counted when it is reported, and is then no longer ahead in the warnings. -/
theorem counted_report (link : Link) :
    Counted 0 0 link [.report { outcome := link.classify, frame := link.inbound.bytes }]
      link.dispatched.cleared := by
  have frame : Effect.reportsFrame
      (.report { outcome := link.classify, frame := link.inbound.bytes }) = true := by
    simpa [Effect.reportsFrame, Effect.outcome?] using classify_kind_ne_replyTimedOut link
  have told : Effect.reportsOverflow
      (.report { outcome := link.classify, frame := link.inbound.bytes }) =
        link.inbound.overflow := by
    simpa [Effect.reportsOverflow, Effect.outcome?] using saysOverflow_classify link
  refine ⟨?_, ?_, ?_, ?_, ?_⟩
  · simp [dispatched, cleared, Stats.countFrame]
  · simp [dispatched, cleared, Stats.countFrame, frame]
  · cases spilled : link.inbound.overflow <;>
      simp [dispatched, cleared, Stats.countFrame, told, spilled]
  · simp [dispatched, cleared, Stats.countFrame, Effect.failsRead]
  · cases spilled : link.inbound.overflow <;>
      simp [cleared, warnings, Effect.warnsOverflow, told, spilled]

theorem Silence.counted {link next : Link} {effects : List Effect}
    (silence : Silence link effects next) : Counted 0 0 link effects next := by
  cases silence with
  | idle _ => exact .still (by simp) rfl rfl
  | soon _ _ => exact .still (by simp) rfl rfl
  | @blank last now _ _ blank =>
    have whole : link.inbound.overflow = false := by
      cases spilled : link.inbound.overflow with
      | false => rfl
      | true =>
        have full := link.inbound.full_of_overflow spilled
        rw [List.isEmpty_iff.mp blank] at full
        cases full
    have emptied : Counted 0 0 link [] link.cleared := by
      refine ⟨?_, ?_, ?_, ?_, ?_⟩ <;> simp [cleared, whole, warnings]
    have noted : Counted 0 0 link [.micros now, .note .silence] link :=
      .still (by simp [uncounted_note]) rfl rfl
    exact noted.trans emptied
  | @frame last now _ _ _ =>
    have noted : Counted 0 0 link ([.micros now, .note .silence] ++ link.dispatchNotes) link := by
      refine .still ?_ rfl rfl
      unfold dispatchNotes
      simp only [List.forall_mem_append, Effect.forall_mem_noteIf]
      simp [uncounted_note]
    rw [dispatchEffects, ← List.append_assoc]
    exact noted.trans (counted_report link)

theorem Reception.counted {link next : Link} {effects : List Effect}
    (reception : Reception link effects next) : Counted 0 0 link effects next := by
  cases reception with
  | nothing => exact .still (by simp [Uncounted, Effect.reportsFrame, Effect.reportsOverflow,
      Effect.outcome?, Effect.warnsOverflow, Effect.failsRead]) rfl rfl
  | failed error =>
    refine ⟨?_, ?_, ?_, ?_, ?_⟩ <;>
      simp [Link.failed, Stats.countLineError, warnings, List.countP_cons, Effect.reportsFrame,
        Effect.reportsOverflow, Effect.outcome?, Effect.warnsOverflow, Effect.failsRead]
  | byte byte now =>
    -- The warning comes with the first byte that is lost, which is the one that marks the buffer.
    have overflow : (link.stored byte now).inbound.overflow =
        (link.inbound.overflow || !link.inbound.takes [byte]) := rfl
    refine ⟨?_, ?_, ?_, ?_, ?_⟩
    · simp [stored]
    · cases spilled : link.inbound.overflow <;> cases takes : link.inbound.takes [byte] <;>
        simp [stored, Effect.noteIf, Effect.reportsFrame, Effect.outcome?]
    · cases spilled : link.inbound.overflow <;> cases takes : link.inbound.takes [byte] <;>
        simp [stored, Effect.noteIf, Effect.reportsOverflow, Effect.outcome?]
    · cases spilled : link.inbound.overflow <;> cases takes : link.inbound.takes [byte] <;>
        simp [stored, Effect.noteIf, Effect.failsRead]
    · cases spilled : link.inbound.overflow <;> cases takes : link.inbound.takes [byte] <;>
        simp [overflow, spilled, takes, warnings, List.countP_cons, Effect.noteIf,
          Effect.reportsOverflow, Effect.outcome?, Effect.warnsOverflow]

theorem Serviced.counted {link next : Link} {effects : List Effect}
    (serviced : Serviced link effects next) : Counted 0 0 link effects next := by
  obtain ⟨deadline, silence, reception⟩ := serviced
  exact (deadline.counted.trans silence.counted).trans reception.counted

/-! ### Sends -/

theorem Occupation.uncounted {bytes : List UInt8} {result : Except Error Unit}
    {effects : List Effect} (occupation : Occupation bytes result effects) :
    ∀ effect ∈ effects, Uncounted effect := by
  rcases occupation with ⟨writing, released⟩ | ⟨writing, released⟩ <;> cases writing <;>
    simp [Uncounted, Effect.reportsFrame, Effect.reportsOverflow, Effect.outcome?,
      Effect.warnsOverflow, Effect.failsRead]

/-- The line is held once for each frame that is sent, and for each send that fails. -/
theorem Transmission.counted {bytes : List UInt8} {link next : Link}
    {result : Except Error Unit} {effects : List Effect}
    (transmission : Transmission bytes link result effects next) :
    Counted result.isOk.toNat (!result.isOk).toNat link effects next := by
  cases transmission with
  | failed occupation =>
    refine .of_uncounted ?_ ?_ rfl rfl rfl rfl
    · rw [List.forall_mem_append]
      exact ⟨occupation.uncounted, by simp [uncounted_note]⟩
    · simp [Link.failed, Stats.countLineError, Except.isOk, Except.toBool]
  | sent occupation =>
    refine .of_uncounted ?_ rfl rfl rfl ?_ rfl
    · rw [List.forall_mem_append, Effect.forall_mem_noteIf]
      exact ⟨occupation.uncounted, fun _ => by simp [uncounted_note]⟩
    · simp [Stats.countSent, Except.isOk, Except.toBool]

theorem load_counted {link next : Link} {frame : List UInt8} {result : Except Error Unit}
    (load : link.load frame = (result, next)) : Counted 0 0 link [] next := by
  rw [load_eq load]
  exact .still (by simp) rfl rfl

theorem Armed.counted {link next : Link} {effects : List Effect}
    (armed : Armed link effects next) : Counted 0 0 link effects next := by
  cases armed with
  | awaited now _ => exact .still (by simp [uncounted_note]) rfl rfl
  | unawaited _ => exact .still (by simp) rfl rfl

theorem builtEffects_counted (frame : Frame) (link : Link) :
    Counted 0 0 link (builtEffects frame) link := by
  refine .still ?_ rfl rfl
  unfold builtEffects
  cases frame.functionCode? <;> simp [uncounted_note]

theorem Pumped.counted {link next : Link} {effects : List Effect}
    (pumped : Pumped link effects next) : Counted 0 0 link effects next := by
  induction pumped with
  | done => exact .still (by simp) rfl rfl
  | step _ serviced _ inductionHypothesis => exact serviced.counted.trans inductionHypothesis

/-! ### Errors of the line -/

theorem failedBy_of_unraised {effects : List Effect} (answer : Answer)
    (unraised : ∀ effect ∈ effects, effect.raised? = none) : failedBy answer effects = false := by
  rw [failedBy, List.any_eq_false]
  intro effect member
  simp [unraised effect member]

theorem failedBy_of_returned {answer : Answer} (effects : List Effect)
    (returned : ∀ error, answer ≠ .refused error) : failedBy answer effects = false := by
  rw [failedBy, List.any_eq_false]
  intro effect _
  cases effect.raised? with
  | none => simp
  | some error => simpa using returned error

theorem failedBy_of_raised {error : Error} {effects : List Effect} {effect : Effect}
    (member : effect ∈ effects) (raised : effect.raised? = some error) :
    failedBy (.refused error) effects = true :=
  List.any_eq_true.mpr ⟨effect, member, by simp [raised]⟩

/-- What comes before the line is held does not raise an error of a send. -/
theorem failedBy_append_of_unraised {effects : List Effect} (answer : Answer)
    (later : List Effect) (unraised : ∀ effect ∈ effects, effect.raised? = none) :
    failedBy answer (effects ++ later) = failedBy answer later := by
  rw [failedBy, List.any_append, ← failedBy, failedBy_of_unraised answer unraised]
  rfl

theorem Serviced.unraised {link next : Link} {effects : List Effect}
    (serviced : Serviced link effects next) : ∀ effect ∈ effects, effect.raised? = none := by
  obtain ⟨deadline, silence, reception⟩ := serviced
  rw [List.forall_mem_append, List.forall_mem_append]
  refine ⟨⟨?_, ?_⟩, ?_⟩
  · cases deadline <;> simp [Effect.raised?]
  · cases silence with
    | frame =>
      simp only [dispatchEffects, dispatchNotes, List.forall_mem_append,
        Effect.forall_mem_noteIf]
      simp [Effect.raised?]
    | _ => simp [Effect.raised?]
  · cases reception with
    | byte =>
      simp only [List.forall_mem_append, Effect.forall_mem_noteIf]
      simp [Effect.raised?]
    | _ => simp [Effect.raised?]

theorem Pumped.unraised {link next : Link} {effects : List Effect}
    (pumped : Pumped link effects next) : ∀ effect ∈ effects, effect.raised? = none := by
  induction pumped with
  | done => simp
  | step _ serviced _ inductionHypothesis =>
    exact List.forall_mem_append.mpr ⟨serviced.unraised, inductionHypothesis⟩

theorem builtEffects_unraised (frame : Frame) :
    ∀ effect ∈ builtEffects frame, effect.raised? = none := by
  unfold builtEffects
  cases frame.functionCode? <;> simp [Effect.raised?]

/-- An error that is given for holding the line is one that the line raised. -/
theorem Occupation.raised {bytes : List UInt8} {error : Error} {effects : List Effect}
    (occupation : Occupation bytes (.error error) effects) :
    ∃ effect ∈ effects, effect.raised? = some error := by
  cases occupation with
  | failed writing released =>
    cases writing with
    | notDriven _ => exact ⟨.drive true (.error error), by simp, rfl⟩
    | notTaken _ => exact ⟨.write bytes (.error error), by simp, rfl⟩
    | taken _ => exact ⟨.flush (.error error), by simp, rfl⟩
  | written writing _ => exact ⟨.drive false (.error error), by simp, rfl⟩

theorem Transmission.failedBy_eq {bytes : List UInt8} {link next : Link}
    {result : Except Error Unit} {effects : List Effect}
    (transmission : Transmission bytes link result effects next) :
    failedBy (.ofResult result) effects = !result.isOk := by
  cases transmission with
  | failed occupation =>
    obtain ⟨effect, member, raised⟩ := occupation.raised
    exact failedBy_of_raised (List.mem_append_left _ member) raised
  | sent _ => exact failedBy_of_returned _ (by simp [Answer.ofResult])

/-! ### Calls -/

theorem Delivery.counted {frame : List UInt8} {link next : Link} {result : SendResult}
    {effects : List Effect} (delivery : Delivery frame link result effects next) :
    Counted (result = .sent : Bool).toNat (failedBy (.ofSend result) effects).toNat link effects
      next := by
  cases delivery with
  | waiting pumped _ =>
    rw [failedBy_of_unraised _ pumped.unraised]
    exact pumped.counted
  | refused pumped _ load =>
    rw [failedBy_of_unraised _ pumped.unraised]
    simpa using pumped.counted.trans (load_counted load)
  | failed pumped _ load transmission | sent pumped _ load transmission =>
    have failed := transmission.failedBy_eq
    rw [failedBy_append_of_unraised _ _ pumped.unraised]
    have counted := (pumped.counted.trans (load_counted load)).trans transmission.counted
    simp only [List.append_nil, Nat.zero_add] at counted
    rw [← failed] at counted
    exact counted

theorem Requested.counted {frame : List UInt8} {link next : Link} {result : SendResult}
    {effects : List Effect} (requested : Requested frame link result effects next) :
    Counted (result = .sent : Bool).toNat (failedBy (.ofSend result) effects).toNat link effects
      next := by
  cases requested with
  | unfit _ => exact .still (by simp) rfl rfl
  | unsent _ delivery _ => exact delivery.counted
  | sent _ delivery armed =>
    have counted := delivery.counted.trans armed.counted
    rw [failedBy_of_returned _ (by simp [Answer.ofSend])] at counted ⊢
    exact counted

theorem Asked.counted {link next : Link} {built : Except Error Frame} {result : SendResult}
    {effects : List Effect} (asked : Asked link built result effects next) :
    Counted (result = .sent : Bool).toNat (failedBy (.ofSend result) effects).toNat link effects
      next := by
  cases asked with
  | malformed _ => exact .still (by simp) rfl rfl
  | built requested =>
    rw [failedBy_append_of_unraised _ _ (builtEffects_unraised _)]
    simpa only [Nat.zero_add] using (builtEffects_counted _ link).trans requested.counted

theorem Call.isSend_of_named {call : Call} {request : Nat × Except Error Frame}
    (named : call.named? = some request) : call.isSend = true := by
  cases call <;> first | rfl | cases named

/-- Each call is counted by how it came out. -/
theorem Performed.counted {link next : Link} {call : Call} {answer : Answer}
    {effects : List Effect} (performed : Performed link call answer effects next) :
    Counted (Turn.sent ⟨call, answer, effects, next⟩).toNat
      (Turn.failed ⟨call, answer, effects, next⟩).toNat link effects next := by
  cases performed with
  | service serviced => exact serviced.counted
  | @sendRaw _ result _ _ transmission =>
    have counted := transmission.counted
    rw [← transmission.failedBy_eq] at counted
    cases result with
    | _ => exact counted
  | @slaveSend _ _ result _ _ delivery =>
    have counted := delivery.counted
    cases result with
    | _ => exact counted
  | @masterSend _ _ result _ _ requested =>
    have counted := requested.counted
    cases result with
    | _ => exact counted
  | @named _ _ _ result _ _ named asked =>
    have counted := asked.counted
    rw [Turn.sent, Turn.failed, Call.isSend_of_named named]
    cases result with
    | _ => exact counted
  | setSlaveId _ => exact .still (by simp) rfl rfl
  | keepSlaveId _ => exact .still (by simp) rfl rfl
  | setPacketLogging => exact .still (by simp) rfl rfl

/-! ### Whole sessions -/

section Sessions

variable {World : Type} [Clock World] [Line World] [Journal World] [Listener World]

theorem Counted.run (config : Config) (world : World) (moves : List (Move World)) :
    Counted (((Session.start config world).run moves).turns.countP Turn.sent)
      (((Session.start config world).run moves).turns.countP Turn.failed) { config }
      ((Session.start config world).run moves).history
      ((Session.start config world).run moves).link := by
  refine Session.run_induction (motive := fun session =>
    Counted (session.turns.countP Turn.sent) (session.turns.countP Turn.failed) { config }
      session.history session.link) ?_ (fun _ _ held => held) ?_ moves
  · exact .still (by simp [Session.history, Session.start]) rfl rfl
  · intro session call answer effects next world held performed
    have counted := held.trans performed.counted
    have once (holds : Bool) : holds.toNat = if holds then 1 else 0 := by cases holds <;> rfl
    rw [once, once] at counted
    simp only [Session.history, history_append, history_cons, history_nil, List.append_nil,
      List.countP_append, List.countP_cons, List.countP_nil, Nat.zero_add]
    exact counted

/-- What it means that the counters and the warnings of a session add up. -/
structure CountersAddUp (session : Session World) : Prop where
  /-- Every frame that was received is of one of five kinds. -/
  received : session.link.stats.framesReceived.toNat =
    session.link.stats.repliesAccepted.toNat + session.link.stats.repliesRefused.toNat +
      session.link.stats.requestsForUs.toNat + session.link.stats.requestsForOther.toNat +
        session.link.stats.requestsInvalid.toNat
  /-- The counter for a kind of outcomes is the number of its reports. -/
  reported : ∀ kind, (session.link.stats.tally kind).toNat = reported kind session.history
  /-- The line failed as many sends and reads as were counted. -/
  lineErrors : session.link.stats.lineErrors.toNat =
    session.turns.countP Turn.failed + session.history.countP Effect.failsRead
  /-- As many sends went out as were counted. -/
  framesSent : session.link.stats.framesSent.toNat = session.turns.countP Turn.sent
  /-- A frame that was longer than the buffer is refused or not valid. -/
  overflows : session.link.stats.overflows.toNat ≤
    session.link.stats.repliesRefused.toNat + session.link.stats.requestsInvalid.toNat
  /-- There was one warning for each such frame, that which is coming in included. -/
  warned : warnings session.history =
    session.link.stats.overflows.toNat + session.link.inbound.overflow.toNat

/-- However calls on a link follow one another, and whatever its clock, its line and its
application do, its counters and warnings add up as long as no counter has wrapped. -/
theorem counters_add_up (config : Config) (world : World) (moves : List (Move World))
    (fit : (Totals.ofTurns ((Session.start config world).run moves).turns).Fit) :
    CountersAddUp ((Session.start config world).run moves) := by
  have counted := Counted.run config world moves
  have tallied := (Accounted.watched.kept.run (fun _ _ => True) config (Accounted.initial config)
    (fun _ _ _ _ _ => trivial) world moves).1.tallied
  generalize (Session.start config world).run moves = session at fit counted tallied
  obtain ⟨framesSent, framesReceived, reported, overflows, lineErrors⟩ := fit
  have tally (kind : Outcome.Kind) :
      (session.link.stats.tally kind).toNat = Link.reported kind session.history := by
    rw [tallied kind]
    exact UInt32.toNat_ofNat_of_lt' (reported kind)
  have received : session.link.stats.framesReceived.toNat =
      session.history.countP Effect.reportsFrame := by
    rw [counted.framesReceived, UInt32.zero_add]
    exact UInt32.toNat_ofNat_of_lt' framesReceived
  have spilled : session.link.stats.overflows.toNat =
      session.history.countP Effect.reportsOverflow := by
    rw [counted.overflows, UInt32.zero_add]
    exact UInt32.toNat_ofNat_of_lt' overflows
  refine ⟨?_, tally, ?_, ?_, ?_, ?_⟩
  · rw [received, framesReceived_eq, ← tally, ← tally, ← tally, ← tally, ← tally]
    rfl
  · rw [counted.lineErrors, UInt32.zero_add]
    exact UInt32.toNat_ofNat_of_lt' lineErrors
  · rw [counted.framesSent, UInt32.zero_add]
    exact UInt32.toNat_ofNat_of_lt' framesSent
  · have bound := overflows_le session.history
    rw [← spilled, ← tally, ← tally] at bound
    exact bound
  · have warned := counted.warned
    simp only [FrameBuffer.overflow_empty, Bool.toNat_false, Nat.zero_add] at warned
    rw [warned, spilled]

end Sessions

/-- Two frames come in that are longer than the buffer, the second one without its end yet, and a
send fails before another one goes out. -/
def crowdedMoves : List (Move (Sim.Bench Sim.Wire)) :=
  .meanwhile (fun bench => { bench with line := bench.line.inject (List.replicate 82 0x11) }) ::
    List.replicate 41 (.call .service) ++
    .meanwhile (fun bench => { bench with clock := bench.clock.advanceMs 1 }) ::
    List.replicate 41 (.call .service) ++
    [.meanwhile fun bench => { bench with line := { bench.line with refusing := true } },
      .call (.sendRaw [0x11]),
      .meanwhile fun bench => { bench with line := { bench.line with refusing := false } },
      .call (.sendRaw [0x11])]

/-- A session after these moves. -/
def crowded : Session (Sim.Bench Sim.Wire) := (Session.start {} { line := {} }).run crowdedMoves

/-- There are two warnings for the two frames, of which one is counted. -/
theorem crowded_counters_add_up :
    (Totals.ofTurns crowded.turns).Fit ∧ CountersAddUp crowded ∧ warnings crowded.history = 2 ∧
      crowded.link.stats.toList = [1, 1, 0, 0, 0, 0, 0, 1, 1, 1] := by
  have few : crowded.turns.length + (history crowded.turns).length < UInt32.size := by
    decide +kernel
  have fit := Totals.fit_of_few few
  exact ⟨fit, counters_add_up _ _ crowdedMoves fit, by decide +kernel,
    by decide +kernel⟩

end Link

end BusNode
