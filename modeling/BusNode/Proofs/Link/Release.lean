/-
This file proves that a link which puts bytes on the line always releases it. Whatever the line
answers, it is asked in one order: to switch the transmitter on, to take the bytes, to let them
leave, and to switch the transmitter off. A failure leaves out what stands between it and the
release, and the first failure is the result of the send.

The calls on the line are what is left of a history when everything else is taken out of it. A link
that waits for the end of an exchange only reads, so what a send asks of the line are some reads and
then, if it gets that far, these calls.
-/
import BusNode.Proofs.Link.Counters
import BusNode.Proofs.Link.Refusal

namespace BusNode

/-- Whether something is asked of the line. -/
def Effect.asksLine : Effect → Bool
  | .drive .. | .write .. | .flush _ | .read _ => true
  | .micros _ | .millis _ | .note _ | .report _ => false

namespace Link

/-! ### What the line is asked while it is held -/

/-- What the line answers when it is held for sending. What comes after a failure is not asked, but
for the last one. -/
structure LineAnswers where
  enabled : Except Error Unit
  written : Except Error Unit
  flushed : Except Error Unit
  released : Except Error Unit

namespace LineAnswers

/-- The calls on a line that gives some answers while bytes are put on it. -/
def calls (bytes : List UInt8) (answers : LineAnswers) : List Effect :=
  [.drive true answers.enabled] ++
    (if answers.enabled.isOk then [.write bytes answers.written] else []) ++
    (if answers.enabled.isOk && answers.written.isOk then [.flush answers.flushed] else []) ++
    [.drive false answers.released]

/-- The first failure, if there is any. -/
def result (answers : LineAnswers) : Except Error Unit := do
  answers.enabled
  answers.written
  answers.flushed
  answers.released

theorem result_eq_ok_iff {answers : LineAnswers} :
    answers.result = .ok () ↔
      answers.enabled = .ok () ∧ answers.written = .ok () ∧ answers.flushed = .ok () ∧
        answers.released = .ok () := by
  obtain ⟨enabled, written, flushed, released⟩ := answers
  cases enabled <;> cases written <;> cases flushed <;> cases released <;>
    simp [result, bind, Except.bind]

/-- The result of a failed send is an error that the line raised. -/
theorem raised_of_result {answers : LineAnswers} {error : Error}
    (failed : answers.result = .error error) (bytes : List UInt8) :
    ∃ effect ∈ answers.calls bytes, effect.raised? = some error := by
  obtain ⟨enabled, written, flushed, released⟩ := answers
  cases enabled with
  | error first =>
    cases failed
    exact ⟨.drive true (.error error), by simp [calls], rfl⟩
  | ok _ =>
    cases written with
    | error first =>
      cases failed
      exact ⟨.write bytes (.error error), by simp [calls, Except.isOk, Except.toBool], rfl⟩
    | ok _ =>
      cases flushed with
      | error first =>
        cases failed
        exact ⟨.flush (.error error), by simp [calls, Except.isOk, Except.toBool], rfl⟩
      | ok _ =>
        obtain rfl : released = .error error := failed
        exact ⟨.drive false (.error error), by simp [calls], rfl⟩

end LineAnswers

/-- The line is held in the one order, whatever it answers. -/
theorem Occupation.answered {bytes : List UInt8} {result : Except Error Unit}
    {effects : List Effect} (occupation : Occupation bytes result effects) :
    ∃ answers : LineAnswers, effects = answers.calls bytes ∧ result = answers.result := by
  cases occupation with
  | failed writing released =>
    cases writing with
    | notDriven => exact ⟨⟨.error _, .ok (), .ok (), released⟩, rfl, rfl⟩
    | notTaken => exact ⟨⟨.ok (), .error _, .ok (), released⟩, rfl, rfl⟩
    | taken flushed => exact ⟨⟨.ok (), .ok (), _, released⟩, rfl, rfl⟩
  | written writing released =>
    cases writing with
    | taken flushed => exact ⟨⟨.ok (), .ok (), .ok (), _⟩, rfl, rfl⟩

example (bytes : List UInt8) (error : Error) :
    LineAnswers.calls bytes ⟨.ok (), .error error, .ok (), .ok ()⟩ =
      [.drive true (.ok ()), .write bytes (.error error), .drive false (.ok ())] := rfl

/-! ### What the line is asked in a history -/

/-- What the line is asked, and what it answers. -/
def lineCalls (effects : List Effect) : List Effect := effects.filter Effect.asksLine

theorem lineCalls_append (effects later : List Effect) :
    lineCalls (effects ++ later) = lineCalls effects ++ lineCalls later :=
  List.filter_append ..

theorem lineCalls_noteIf (reason : Bool) (notice : Notice) :
    lineCalls (Effect.noteIf reason notice) = [] := by
  cases reason <;> rfl

theorem lineCalls_calls (bytes : List UInt8) (answers : LineAnswers) :
    lineCalls (answers.calls bytes) = answers.calls bytes := by
  obtain ⟨enabled, written, flushed, released⟩ := answers
  cases enabled <;> cases written <;> rfl

/-- Failures to read are found among the calls on the line. -/
theorem countP_failsRead (effects : List Effect) :
    effects.countP Effect.failsRead = (lineCalls effects).countP Effect.failsRead := by
  rw [lineCalls, List.countP_filter]
  refine List.countP_congr fun effect _ => ?_
  cases effect <;> simp [Effect.failsRead, Effect.asksLine]

theorem countP_failsRead_calls (bytes : List UInt8) (answers : LineAnswers) :
    (answers.calls bytes).countP Effect.failsRead = 0 := by
  obtain ⟨enabled, written, flushed, released⟩ := answers
  cases enabled <;> cases written <;> rfl

theorem countP_failsRead_reads (reads : List (Except Error (Option UInt8))) :
    (reads.map Effect.read).countP Effect.failsRead = reads.countP fun answer => !answer.isOk := by
  rw [List.countP_map]
  refine List.countP_congr fun answer _ => ?_
  cases answer <;> rfl

/-! ### What the parts of a call ask of the line -/

section Parts

variable {link next : Link} {effects : List Effect}

theorem Deadline.lineCalls_eq (deadline : Deadline link effects next) :
    lineCalls effects = [] := by
  cases deadline <;> rfl

theorem Silence.lineCalls_eq (silence : Silence link effects next) : lineCalls effects = [] := by
  cases silence with
  | frame =>
    rw [lineCalls_append, dispatchEffects, dispatchNotes, lineCalls_append, lineCalls_append,
      lineCalls_append, lineCalls_noteIf, lineCalls_noteIf]
    rfl
  | _ => rfl

theorem Reception.lineCalls_eq (reception : Reception link effects next) :
    ∃ answer, lineCalls effects = [.read answer] := by
  cases reception with
  | nothing | failed error => exact ⟨_, rfl⟩
  | byte byte now =>
    refine ⟨.ok (some byte), ?_⟩
    rw [lineCalls_append, lineCalls_append, lineCalls_noteIf]
    rfl

/-- A step reads once, and asks nothing else of the line. -/
theorem Serviced.lineCalls_eq (serviced : Serviced link effects next) :
    ∃ answer, lineCalls effects = [.read answer] := by
  obtain ⟨deadline, silence, reception⟩ := serviced
  obtain ⟨answer, last⟩ := reception.lineCalls_eq
  refine ⟨answer, ?_⟩
  rw [lineCalls_append, lineCalls_append, deadline.lineCalls_eq, silence.lineCalls_eq, last]
  rfl

/-- A link that waits only reads, and not at all if it awaits no reply. -/
theorem Pumped.lineCalls_eq (pumped : Pumped link effects next) :
    ∃ reads : List (Except Error (Option UInt8)),
      lineCalls effects = reads.map .read ∧ (link.isBusy = false → reads = []) := by
  induction pumped with
  | done => exact ⟨[], rfl, fun _ => rfl⟩
  | step busy serviced _ inductionHypothesis =>
    obtain ⟨answer, first⟩ := serviced.lineCalls_eq
    obtain ⟨reads, rest, -⟩ := inductionHypothesis
    refine ⟨answer :: reads, ?_, fun free => absurd busy (by simp [free])⟩
    rw [lineCalls_append, first, rest]
    rfl

theorem Transmission.lineCalls_eq {bytes : List UInt8} {result : Except Error Unit}
    (transmission : Transmission bytes link result effects next) :
    ∃ answers : LineAnswers,
      lineCalls effects = answers.calls bytes ∧ result = answers.result := by
  cases transmission with
  | failed occupation =>
    obtain ⟨answers, rfl, failed⟩ := occupation.answered
    refine ⟨answers, ?_, failed⟩
    rw [lineCalls_append, lineCalls_calls]
    exact List.append_nil _
  | sent occupation =>
    obtain ⟨answers, rfl, sent⟩ := occupation.answered
    refine ⟨answers, ?_, sent⟩
    rw [lineCalls_append, lineCalls_calls, lineCalls_noteIf]
    exact List.append_nil _

theorem Armed.lineCalls_eq (armed : Armed link effects next) : lineCalls effects = [] := by
  cases armed <;> rfl

theorem lineCalls_builtEffects (frame : Frame) : lineCalls (builtEffects frame) = [] := by
  unfold builtEffects
  cases frame.functionCode? <;> rfl

end Parts

/-! ### What a call puts on the line -/

/-- A frame with its checksum, if there is room for both. -/
def whole? (frame : List UInt8) : Option (List UInt8) :=
  if frame.length + Checksum.trailerLength ≤ Adu.maxLength then
    some (frame ++ Checksum.trailer frame)
  else none

/-- The bytes that a call puts on the line once no reply is awaited. -/
def Call.outgoing? : Call → Option (List UInt8)
  | .sendRaw bytes => some bytes
  | call => call.loads?.bind whole?

/-- The bytes that a turn put on the line. -/
def Turn.outgoing? (turn : Turn) : Option (List UInt8) :=
  if turn.answer = .waiting then none else turn.call.outgoing?

theorem Call.outgoing?_eq {call : Call} (cooked : ∀ bytes, call ≠ .sendRaw bytes) :
    call.outgoing? = call.loads?.bind whole? := by
  cases call <;> first | rfl | exact absurd rfl (cooked _)

theorem Call.outgoing?_of_asks {call : Call}
    (asks : call.request?.isSome = true ∨ call.named?.isSome = true) :
    call.outgoing? = call.receivable?.bind whole? := by
  cases call <;> first | rfl | simp [request?, named?] at asks

theorem Call.outgoing?_of_request {call : Call} {frame : List UInt8}
    (asks : call.request? = some frame) :
    call.outgoing? = if (Reply.checkFits frame).isOk then whole? frame else none := by
  rw [outgoing?_of_asks (.inl (asks ▸ rfl)), receivable?, asks, Option.filter_some]
  split <;> rfl

theorem Call.outgoing?_of_malformed {call : Call} {patience : Nat} {error : Error}
    (named : call.named? = some (patience, .error error)) : call.outgoing? = none := by
  rw [outgoing?_of_asks (.inr (named ▸ rfl)), receivable?, request?_of_malformed named]
  rfl

theorem Call.patience?_of_named {call : Call} {request : Nat × Except Error Frame}
    (named : call.named? = some request) : call.patience? = some request.1 := by
  cases call <;> first | exact congrArg (Option.map Prod.fst) named | cases named

/-- A call that puts bytes on the line is to send something. Raw bytes are not waited for. -/
theorem Call.of_outgoing {call : Call} {bytes : List UInt8}
    (outgoing : call.outgoing? = some bytes) :
    call.isSend = true ∧
      (call = .sendRaw bytes ∨ call.patience?.isSome = true ∧ ∃ frame, call.loads? = some frame) := by
  by_cases raw : ∃ sent, call = .sendRaw sent
  · obtain ⟨sent, rfl⟩ := raw
    obtain rfl := Option.some.inj outgoing
    exact ⟨rfl, .inl rfl⟩
  · rw [outgoing?_eq fun sent same => raw ⟨sent, same⟩] at outgoing
    obtain ⟨frame, loads, -⟩ := Option.bind_eq_some_iff.mp outgoing
    have waits : call.isSend = true ∧ call.patience?.isSome = true := by
      cases call <;> first | exact ⟨rfl, rfl⟩ | cases loads
    exact ⟨waits.1, .inr ⟨waits.2, frame, loads⟩⟩

/-- How a call uses the line. It only reads if it puts nothing on the line, and otherwise before
that, while it waits. -/
inductive LineUse (atOnce : Prop) (answer : Answer) (effects : List Effect) :
    Option (List UInt8) → Prop where
  | nothing (reads : List (Except Error (Option UInt8)))
      (calls : lineCalls effects = reads.map .read) : LineUse atOnce answer effects none
  | bytes {bytes : List UInt8} (reads : List (Except Error (Option UInt8)))
      (answers : LineAnswers) (calls : lineCalls effects = reads.map .read ++ answers.calls bytes)
      (unread : atOnce → reads = []) (answered : answer = .ofResult answers.result) :
      LineUse atOnce answer effects (some bytes)

theorem LineUse.congr {atOnce sooner : Prop} {answer : Answer} {effects later : List Effect}
    {outgoing : Option (List UInt8)} (use : LineUse atOnce answer effects outgoing)
    (same : lineCalls later = lineCalls effects) (ready : sooner → atOnce) :
    LineUse sooner answer later outgoing := by
  cases use with
  | nothing reads calls => exact .nothing reads (same.trans calls)
  | bytes reads answers calls unread answered =>
    exact .bytes reads answers (same.trans calls) (fun soon => unread (ready soon)) answered

section Calls

variable {link next : Link} {effects : List Effect} {result : SendResult} {frame : List UInt8}

theorem Delivery.lineUse (delivery : Delivery frame link result effects next) :
    LineUse (link.isBusy = false) (.ofSend result) effects
      (if Answer.ofSend result = .waiting then none else whole? frame) := by
  cases delivery with
  | waiting pumped _ =>
    obtain ⟨reads, calls, -⟩ := pumped.lineCalls_eq
    exact .nothing reads calls
  | refused pumped _ load =>
    obtain ⟨reads, calls, -⟩ := pumped.lineCalls_eq
    have long : ¬frame.length + Checksum.trailerLength ≤ Adu.maxLength := by
      intro fits
      cases load_result load fits
    rw [if_neg (by simp [Answer.ofSend]), whole?, if_neg long]
    exact .nothing reads calls
  | failed pumped _ load transmission | sent pumped _ load transmission =>
    obtain ⟨reads, early, unread⟩ := pumped.lineCalls_eq
    obtain ⟨answers, late, result⟩ := transmission.lineCalls_eq
    obtain ⟨fits, bytes⟩ := load_ok load
    rw [if_neg (by simp [Answer.ofSend]), whole?, if_pos fits, ← bytes]
    refine .bytes reads answers ?_ unread ?_
    · rw [lineCalls_append, early, late]
    · rw [← result]
      rfl

theorem Requested.lineUse {call : Call} (asks : call.request? = some frame)
    (requested : Requested frame link result effects next) :
    LineUse (link.isBusy = false) (.ofSend result) effects
      (if Answer.ofSend result = .waiting then none else call.outgoing?) := by
  rw [Call.outgoing?_of_request asks]
  cases requested with
  | unfit unfit =>
    rw [unfit]
    exact .nothing [] rfl
  | unsent fits delivery _ =>
    rw [fits]
    exact delivery.lineUse
  | sent fits delivery armed =>
    rw [fits]
    refine delivery.lineUse.congr ?_ id
    rw [lineCalls_append, armed.lineCalls_eq, List.append_nil]

theorem Performed.lineUse {call : Call} {answer : Answer}
    (performed : Performed link call answer effects next) :
    LineUse (link.isBusy = false ∨ call.patience? = none) answer effects
      (Turn.outgoing? ⟨call, answer, effects, next⟩) := by
  cases performed with
  | service serviced =>
    obtain ⟨read, calls⟩ := serviced.lineCalls_eq
    exact .nothing [read] calls
  | sendRaw transmission =>
    obtain ⟨answers, calls, rfl⟩ := transmission.lineCalls_eq
    rw [Turn.outgoing?, if_neg (by cases answers.result <;> simp [Answer.ofResult])]
    exact .bytes [] answers calls (fun _ => rfl) rfl
  | slaveSend delivery =>
    exact delivery.lineUse.congr rfl fun soon => soon.resolve_right (Option.some_ne_none _)
  | masterSend requested =>
    exact (requested.lineUse rfl).congr rfl fun soon => soon.resolve_right (Option.some_ne_none _)
  | named named asked =>
    cases asked with
    | malformed error =>
      rw [Turn.outgoing?, if_neg (by simp [Answer.ofSend]), Call.outgoing?_of_malformed named]
      exact .nothing [] rfl
    | built requested =>
      refine (requested.lineUse (Call.request?_of_named named)).congr ?_ fun soon => ?_
      · rw [lineCalls_append, lineCalls_builtEffects, List.nil_append]
      · rw [Call.patience?_of_named named] at soon
        exact soon.resolve_right (Option.some_ne_none _)
  | setSlaveId _ | keepSlaveId _ | setPacketLogging => exact .nothing [] rfl

/-- A call is not answered only while a reply is awaited, from its beginning to its end. -/
theorem Performed.waits {call : Call} {answer : Answer}
    (performed : Performed link call answer effects next) (unanswered : answer = .waiting) :
    link.isBusy = true ∧ next.isBusy = true := by
  have waiting {result : SendResult} (same : Answer.ofSend result = .waiting) :
      result = .waiting := Answer.ofSend_injective same
  cases performed with
  | slaveSend delivery =>
    obtain rfl := waiting unanswered
    exact delivery.waits
  | masterSend requested =>
    obtain rfl := waiting unanswered
    exact requested.waits
  | named _ asked =>
    obtain rfl := waiting unanswered
    cases asked with
    | built requested => exact requested.waits
  | @sendRaw _ result => cases result <;> cases unanswered
  | _ => cases unanswered

/-- A send that fails leaves no wait behind but the one that raw bytes did not end. -/
theorem Performed.waitingSince_of_refused {call : Call} {answer : Answer} {error : Error}
    {bytes : List UInt8} (performed : Performed link call answer effects next)
    (outgoing : call.outgoing? = some bytes) (refused : answer = .refused error) :
    next.waitingSince = if call.patience?.isSome then none else link.waitingSince := by
  obtain ⟨-, rfl | ⟨waits, frame, loads⟩⟩ := Call.of_outgoing outgoing
  · cases performed with
    | sendRaw transmission => exact transmission.quiet.waiting
    | named named _ => cases named
  · obtain ⟨result, _, _, answered, -, -, -, sending⟩ :=
      performed.sending (Call.loads?_eq_some_iff.mp loads)
    obtain rfl : result = .refused error := Answer.ofSend_injective (answered.symm.trans refused)
    have free := (sending.delivery (by simp)).free_of_returned SendResult.noConfusion
    rw [if_pos waits]
    simpa [isBusy] using free

end Calls

/-! ### Every send -/

/-- How a turn puts bytes on the line, and releases it. -/
structure Turn.Releases (link : Link) (bytes : List UInt8)
    (reads : List (Except Error (Option UInt8))) (answers : LineAnswers) (turn : Turn) : Prop where
  /-- The line is read while the link waits, and is then asked what the send asks of it. -/
  calls : lineCalls turn.effects = reads.map .read ++ answers.calls bytes
  /-- A link that awaits no reply does not wait, and neither do raw bytes. -/
  atOnce : link.isBusy = false ∨ turn.call.patience? = none → reads = []
  /-- The first failure is the result. -/
  answer : turn.answer = .ofResult answers.result
  /-- The send succeeds if every call on the line does. -/
  done : turn.answer = .done ↔
    answers.enabled = .ok () ∧ answers.written = .ok () ∧ answers.flushed = .ok () ∧
      answers.released = .ok ()
  framesSent : turn.link.stats.framesSent =
    link.stats.framesSent + if answers.result.isOk then 1 else 0
  /-- Errors are counted while the link waits as well. -/
  lineErrors : turn.link.stats.lineErrors =
    link.stats.lineErrors + UInt32.ofNat (reads.countP fun answer => !answer.isOk) +
      if answers.result.isOk then 0 else 1
  /-- A send that fails begins no wait. -/
  unarmed : turn.answer ≠ .done → armings turn.effects = 0 ∧
    turn.link.waitingSince = if turn.call.patience?.isSome then none else link.waitingSince

/-- A send that puts bytes on the line counts as sent or as failed, by its result. -/
theorem Turn.sent_and_failed {turn : Turn} {answers : LineAnswers} {bytes : List UInt8}
    (sends : turn.call.isSend = true) (answered : turn.answer = .ofResult answers.result)
    (asked : ∀ effect ∈ answers.calls bytes, effect ∈ turn.effects) :
    turn.sent = answers.result.isOk ∧ turn.failed = !answers.result.isOk := by
  rw [Turn.sent, Turn.failed, sends, answered, Bool.true_and, Bool.true_and]
  cases came : answers.result with
  | ok _ => exact ⟨rfl, failedBy_of_returned _ (by simp [Answer.ofResult])⟩
  | error error =>
    obtain ⟨effect, member, raised⟩ := LineAnswers.raised_of_result came bytes
    exact ⟨rfl, failedBy_of_raised (asked effect member) raised⟩

theorem Answer.ofResult_eq_done_iff {result : Except Error Unit} :
    ofResult result = .done ↔ result = .ok () := by
  cases result <;> simp [ofResult]

/-- A turn that puts bytes on the line releases it. -/
theorem Performed.releases {link : Link} {turn : Turn} {bytes : List UInt8}
    (performed : Performed link turn.call turn.answer turn.effects turn.link)
    (outgoing : turn.outgoing? = some bytes) :
    ∃ reads answers, turn.Releases link bytes reads answers := by
  have use := performed.lineUse
  have loads : turn.call.outgoing? = some bytes := by
    rw [Turn.outgoing?] at outgoing
    split at outgoing
    · cases outgoing
    · exact outgoing
  rw [outgoing] at use
  cases use with
  | bytes reads answers calls atOnce answered =>
    have asked : ∀ effect ∈ answers.calls bytes, effect ∈ turn.effects := by
      intro effect member
      have onLine : effect ∈ lineCalls turn.effects := calls ▸ List.mem_append_right _ member
      exact (List.mem_filter.mp onLine).1
    have unread : turn.effects.countP Effect.failsRead =
        reads.countP fun answer => !answer.isOk := by
      rw [countP_failsRead, calls, List.countP_append, countP_failsRead_reads,
        countP_failsRead_calls, Nat.add_zero]
    have done : turn.answer = .done ↔ answers.result = .ok () := by
      rw [answered, Answer.ofResult_eq_done_iff]
    obtain ⟨sent, failed⟩ := Turn.sent_and_failed (Call.of_outgoing loads).1 answered asked
    obtain ⟨framesSent, -, -, lineErrors, -⟩ := performed.counted
    rw [sent] at framesSent
    rw [failed, unread, Nat.add_comm, UInt32.ofNat_add, ← UInt32.add_assoc] at lineErrors
    refine ⟨reads, answers, calls, atOnce, answered,
      done.trans LineAnswers.result_eq_ok_iff, ?_, ?_, fun unsent => ?_⟩
    · rw [framesSent]
      cases answers.result <;> rfl
    · rw [lineErrors]
      cases answers.result <;> rfl
    · cases came : answers.result with
      | ok _ => exact absurd (done.mpr came) unsent
      | error error =>
        have refused : turn.answer = .refused error := answered.trans (congrArg _ came)
        refine ⟨?_, performed.waitingSince_of_refused loads refused⟩
        rw [performed.armings, Turn.arms, refused]
        simp

section Worlds

variable {World : Type} [Clock World] [Line World] [Journal World] [Listener World]

/-- In every world and whatever fails, a call that puts bytes on the line releases it as the last
thing that it asks of it. The first failure is its result, it counts once as sent or as failed, and
it begins no wait if it failed. A call that puts nothing on the line only reads. A call that is not
answered was made while a reply was awaited, and the link waits for it still. -/
theorem every_send_releases_line (link : Link) (world : World) (call : Call) :
    ∃ turn after, turn.call = call ∧
      ({ link, world } : Session World).move (.call call) =
        { link := turn.link, world := after, turns := [turn] } ∧
      call.perform link world = ((turn.answer, turn.link), after) ∧
      Leads world turn.effects after ∧
      (turn.answer = .waiting → link.isBusy = true ∧ turn.link.isBusy = true) ∧
      match turn.outgoing? with
      | none => ∃ reads : List (Except Error (Option UInt8)),
          lineCalls turn.effects = reads.map .read
      | some bytes => ∃ reads answers, turn.Releases link bytes reads answers := by
  obtain ⟨answer, effects, next, after, moved, performed, leads, same⟩ :=
    ({ link, world } : Session World).move_call call
  refine ⟨⟨call, answer, effects, next⟩, after, rfl, moved, same, leads, performed.waits, ?_⟩
  split
  · rename_i silent
    have use := performed.lineUse
    rw [silent] at use
    cases use with
    | nothing reads calls => exact ⟨reads, calls⟩
  · rename_i bytes outgoing
    exact performed.releases outgoing

end Worlds

end Link

end BusNode
