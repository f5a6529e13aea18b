/-
This file proves that a reply is accepted only if it answers the request that is outstanding. A
link stores no request with its wait. It holds a reply against the frame that it loaded last, so
nothing may be loaded while a reply is awaited. A history says by itself which request is
outstanding: the bytes that the line took last before the wait began.
-/
import Mathlib.Data.List.Induction
import BusNode.Proofs.Link.Segments
import BusNode.Proofs.Link.Waiting

namespace BusNode

/-! ### The outstanding request of a history -/

/-- The bytes that the line took in an effect, if it took any. -/
def Effect.emitted? : Effect → Option (List UInt8)
  | .write bytes (.ok ()) => some bytes
  | _ => none

/-- The bytes that the line took last, and the request for whose reply a history waits. -/
structure Exchange where
  written : List UInt8 := []
  request : Option (List UInt8) := none

namespace Exchange

/-- Takes one more effect into account. A wait begins with the bytes that the line took last, and
ends with the report of a reply. -/
def next (exchange : Exchange) (effect : Effect) : Exchange :=
  match effect with
  | .write bytes (.ok ()) => { exchange with written := bytes }
  | .note .waitArmed => { exchange with request := some exchange.written }
  | .report report => if report.outcome.isReply then { exchange with request := none } else exchange
  | _ => exchange

/-- A wait begins only while no request is outstanding, and a reply is accepted only if it answers
the one that is. -/
structure Allows (exchange : Exchange) (effect : Effect) : Prop where
  begins : effect.arms = true → exchange.request = none
  answers : ∀ report, effect = .report report → report.outcome = .replyAccepted →
    ∃ request, exchange.request = some request ∧ Reply.check request report.frame = .ok ()

theorem request_next (exchange : Exchange) {effect : Effect} (unarmed : effect.arms = false) :
    (exchange.next effect).request = if effect.replies then none else exchange.request := by
  match effect with
  | .report report =>
    cases reply : report.outcome.isReply <;> simp [next, Effect.replies, Effect.outcome?, reply]
  | .note notice => cases notice <;> first | rfl | cases unarmed
  | .write _ (.ok ()) | .write _ (.error _) => rfl
  | .micros _ | .millis _ | .drive _ _ | .flush _ | .read _ => rfl

theorem allows_of_aside {exchange : Exchange} {effect : Effect} (aside : effect.aside = true) :
    exchange.Allows effect where
  begins arms := by
    rw [Link.arms_of_aside aside] at arms
    cases arms
  answers := by
    rintro report rfl
    cases aside

theorem request_foldl_of_aside {effects : List Effect} (exchange : Exchange)
    (aside : ∀ effect ∈ effects, effect.aside = true) :
    (effects.foldl next exchange).request = exchange.request := by
  induction effects generalizing exchange with
  | nil => rfl
  | cons effect rest inductionHypothesis =>
    have first := aside effect List.mem_cons_self
    rw [List.foldl_cons, inductionHypothesis _ fun other member =>
      aside other (List.mem_cons_of_mem _ member), request_next _ (Link.arms_of_aside first),
      Link.replies_of_aside first, if_neg Bool.false_ne_true]

/-- A request stays outstanding until a reply is reported. -/
theorem request_of_endings {effects : List Effect} {exchange : Exchange} {request : List UInt8}
    (outstanding : exchange.request = some request) (allowed : Guarded next Allows exchange effects)
    (unended : Link.endings effects = 0) :
    (effects.foldl next exchange).request = some request := by
  induction effects generalizing exchange with
  | nil => exact outstanding
  | cons effect rest inductionHypothesis =>
    rw [Link.endings_cons] at unended
    have unreplied : effect.replies = false := by
      cases replies : effect.replies with
      | false => rfl
      | true => simp [replies] at unended
    have unarmed : effect.arms = false := by
      cases arms : effect.arms with
      | false => rfl
      | true => simp [allowed.1.begins arms] at outstanding
    refine inductionHypothesis ?_ allowed.2 (by omega)
    rw [request_next exchange unarmed, unreplied, if_neg Bool.false_ne_true]
    exact outstanding

/-- What is outstanding where no wait began was so before, and no reply was reported. -/
theorem request_of_armings {effects : List Effect} {exchange : Exchange} {request : List UInt8}
    (outstanding : (effects.foldl next exchange).request = some request)
    (unarmed : Link.armings effects = 0) :
    exchange.request = some request ∧ Link.endings effects = 0 := by
  induction effects generalizing exchange with
  | nil => exact ⟨outstanding, rfl⟩
  | cons effect rest inductionHypothesis =>
    rw [Link.armings_cons] at unarmed
    have passive : effect.arms = false := by
      cases arms : effect.arms with
      | false => rfl
      | true => simp [arms] at unarmed
    obtain ⟨request, unended⟩ := inductionHypothesis outstanding (by omega)
    rw [request_next exchange passive] at request
    cases replies : effect.replies with
    | true => simp [replies] at request
    | false =>
      rw [replies, if_neg Bool.false_ne_true] at request
      refine ⟨request, ?_⟩
      rw [Link.endings_cons, replies, unended]
      rfl

end Exchange

namespace Link

/-- The request for whose reply a history waits. -/
def requested (history : List Effect) : Option (List UInt8) :=
  (history.foldl Exchange.next {}).request

@[simp] theorem requested_append (past effects : List Effect) :
    requested (past ++ effects) =
      (effects.foldl Exchange.next (past.foldl Exchange.next {})).request := by
  rw [requested, List.foldl_append]

/-- What the line took, the earliest first. -/
def emitted (history : List Effect) : List (List UInt8) := history.filterMap Effect.emitted?

@[simp] theorem emitted_append (past effects : List Effect) :
    emitted (past ++ effects) = emitted past ++ emitted effects :=
  List.filterMap_append

theorem Transmission.written {bytes : List UInt8} {link next : Link} {effects : List Effect}
    (transmission : Transmission bytes link (.ok ()) effects next) (exchange : Exchange) :
    (effects.foldl Exchange.next exchange).written = bytes := by
  cases transmission with
  | sent occupation =>
    rw [occupation.of_ok]
    cases link.config.packetLogging <;> rfl

/-! ### A link holds the outstanding request -/

/-- While a link waits for a reply, its outbound frame is the outstanding request, and only replies
to outstanding requests were accepted. -/
structure Matched (link : Link) (past : List Effect) : Prop where
  request : requested past = if link.isBusy then some link.outbound.bytes else none
  allowed : Guarded Exchange.next Exchange.Allows {} past

namespace Matched

variable {link next : Link} {past effects : List Effect}

theorem append (held : Matched link past)
    (request : (effects.foldl Exchange.next (past.foldl Exchange.next {})).request =
      if next.isBusy then some next.outbound.bytes else none)
    (allowed : Guarded Exchange.next Exchange.Allows (past.foldl Exchange.next {}) effects) :
    Matched next (past ++ effects) where
  request := (requested_append past effects).trans request
  allowed := (guarded_append _ _ _).mpr ⟨held.allowed, allowed⟩

/-- A quiet step may load another frame only while no reply is awaited. -/
theorem quiet (held : Matched link past) (quiet : Quiet link effects next)
    (outbound : link.isBusy = true → next.outbound = link.outbound) :
    Matched next (past ++ effects) := by
  refine held.append ?_ ?_
  · have request : (past.foldl Exchange.next {}).request = _ := held.request
    rw [Exchange.request_foldl_of_aside _ quiet.aside, request, isBusy, isBusy, quiet.waiting]
    cases waiting : link.waitingSince with
    | none => rfl
    | some since => rw [outbound (by rw [isBusy, waiting]; rfl)]
  · exact guarded_of_always fun effect member exchange =>
      Exchange.allows_of_aside (quiet.aside effect member)

/-- A report ends the wait if there is one, and accepts only an answer to its request. -/
theorem report {report : Report} (held : Matched link past)
    (reported : Reported link report next) : Matched next (past ++ [.report report]) := by
  have request : (past.foldl Exchange.next {}).request = _ := held.request
  rw [← reported.turn] at request
  refine held.append ?_ ⟨⟨fun arms => (nomatch arms), ?_⟩, trivial⟩
  · rw [reported.free, if_neg Bool.false_ne_true, List.foldl_cons, List.foldl_nil]
    cases reply : report.outcome.isReply with
    | true => simp [Exchange.next, reply]
    | false =>
      rw [reply, if_neg Bool.false_ne_true] at request
      simp [Exchange.next, reply, request]
  · rintro _ ⟨⟩ accepted
    rw [accepted] at request
    exact ⟨link.outbound.bytes, request, reported.answers accepted⟩

/-- A wait begins with the bytes that the line has just taken. -/
theorem armed (held : Matched link past) (free : link.isBusy = false)
    (written : (past.foldl Exchange.next {}).written = link.outbound.bytes)
    (armed : Armed link effects next) : Matched next (past ++ effects) := by
  cases armed with
  | awaited now _ =>
    have request : (past.foldl Exchange.next {}).request = _ := held.request
    rw [free, if_neg Bool.false_ne_true] at request
    refine held.append ?_ ?_
    · simp [Exchange.next, written, isBusy]
    · refine ⟨Exchange.allows_of_aside rfl, ⟨fun _ => request, ?_⟩, trivial⟩
      rintro report ⟨⟩
  | unawaited _ => exact held.quiet ⟨by simp, rfl, fun _ => rfl⟩ fun _ => rfl

theorem watched : Watched Matched where
  quiet held quiet outbound := held.quiet quiet outbound
  report held reported := held.report reported
  armed held transmission free armed := by
    refine held.armed free ?_ armed
    rw [List.foldl_append, transmission.outbound]
    exact transmission.written _

theorem initial (config : Config) : Matched { config } [] := ⟨rfl, trivial⟩

end Matched

/-! ### What a turn sends -/

theorem emitted_of_unwritten {effects : List Effect}
    (unwritten : ∀ effect ∈ effects, effect.writes = false) : emitted effects = [] := by
  refine List.filterMap_eq_nil_iff.mpr fun effect member => ?_
  have silent := unwritten effect member
  cases effect with
  | write => cases silent
  | _ => rfl

theorem Pumped.emitted {link next : Link} {effects : List Effect}
    (pumped : Pumped link effects next) : emitted effects = [] := by
  induction pumped with
  | done => rfl
  | step _ serviced _ inductionHypothesis =>
    rw [emitted_append, inductionHypothesis,
      emitted_of_unwritten fun effect member => (serviced.passive effect member).2]
    rfl

theorem Transmission.emitted {bytes : List UInt8} {link next : Link} {effects : List Effect}
    (transmission : Transmission bytes link (.ok ()) effects next) : emitted effects = [bytes] := by
  cases transmission with
  | sent occupation =>
    rw [occupation.of_ok]
    cases link.config.packetLogging <;> rfl

theorem emitted_builtEffects (frame : Frame) : emitted (builtEffects frame) = [] := by
  unfold builtEffects
  cases frame.functionCode? <;> rfl

/-- A frame that is sent goes out once, with its checksum. -/
theorem Delivery.emitted {frame : List UInt8} {link next : Link} {effects : List Effect}
    (delivery : Delivery frame link .sent effects next) :
    emitted effects = [frame ++ Checksum.trailer frame] := by
  cases delivery with
  | sent pumped _ load transmission =>
    rw [emitted_append, pumped.emitted, transmission.emitted, (load_ok load).2]
    rfl

theorem Requested.emitted {frame : List UInt8} {link next : Link} {effects : List Effect}
    (requested : Requested frame link .sent effects next) :
    emitted effects = [frame ++ Checksum.trailer frame] ∧
      next.outbound.bytes = frame ++ Checksum.trailer frame := by
  cases requested with
  | unsent _ _ unsent => exact absurd rfl unsent
  | sent _ delivery armed =>
    rw [emitted_append, delivery.emitted]
    cases armed <;> exact ⟨rfl, delivery.outbound.2⟩

theorem Requested.getLast? {frame : List UInt8} {link next : Link} {effects : List Effect}
    (requested : Requested frame link .sent effects next) (busy : next.isBusy = true) :
    effects.getLast? = some (.note .waitArmed) := by
  cases requested with
  | unsent _ _ unsent => exact absurd rfl unsent
  | sent _ delivery armed =>
    cases armed with
    | awaited now _ =>
      rw [List.getLast?_append]
      rfl
    | unawaited _ =>
      rw [delivery.free] at busy
      cases busy

/-- A turn that begins a wait sends a request, and only notes something before. -/
theorem Performed.requested {link next : Link} {call : Call} {answer : Answer}
    {effects : List Effect} (performed : Performed link call answer effects next)
    (arms : Turn.arms ⟨call, answer, effects, next⟩ = true) :
    ∃ frame notes later, call.request? = some frame ∧ effects = notes ++ later ∧
      emitted notes = [] ∧ Requested frame link .sent later next ∧ next.isBusy = true := by
  simp only [Turn.arms, Bool.and_eq_true, decide_eq_true_eq] at arms
  obtain ⟨⟨asks, answered⟩, busy⟩ := arms
  cases performed with
  | @masterSend patience frame result _ _ requested =>
    have sent : result = .sent := by cases result <;> first | rfl | cases answered
    rw [sent] at requested
    exact ⟨frame, [], effects, rfl, rfl, rfl, requested, busy⟩
  | @named _ patience _ result _ _ named asked =>
    cases asked with
    | malformed error => cases answered
    | @built frame _ later _ requested =>
      have sent : result = .sent := by cases result <;> first | rfl | cases answered
      rw [sent] at requested
      exact ⟨frame.bytes, builtEffects frame, later, Call.request?_of_named named, rfl,
        emitted_builtEffects frame, requested, busy⟩
  | _ => cases asks

/-! ### Replies match requests -/

/-- What every turn keeps to that follows a given history. -/
structure Orderly (past : List Effect) (turn : Turn) : Prop where
  armings : armings turn.effects = turn.arms.toNat
  last : turn.arms = true → turn.effects.getLast? = some (.note .waitArmed)
  transmitted : turn.arms = true → ∃ frame, turn.call.request? = some frame ∧
    emitted turn.effects = [frame ++ Checksum.trailer frame] ∧
      turn.link.outbound.bytes = frame ++ Checksum.trailer frame
  request : turn.arms = true → requested (past ++ turn.effects) = some turn.link.outbound.bytes

theorem Matched.orderly {link : Link} {past : List Effect} {turn : Turn} (held : Matched link past)
    (performed : Performed link turn.call turn.answer turn.effects turn.link) :
    Orderly past turn where
  armings := performed.armings
  last arms := by
    obtain ⟨frame, notes, later, -, same, -, requested, busy⟩ := performed.requested arms
    rw [same, List.getLast?_append, requested.getLast? busy]
    rfl
  transmitted arms := by
    obtain ⟨frame, notes, later, asks, same, silent, requested, -⟩ := performed.requested arms
    refine ⟨frame, asks, ?_, requested.emitted.2⟩
    rw [same, emitted_append, silent, requested.emitted.1]
    rfl
  request arms := by
    obtain ⟨frame, notes, later, -, -, -, -, busy⟩ := performed.requested arms
    rw [(Matched.watched.kept.performed performed held).request, busy, if_pos rfl]

/-- What a turn does before it reports anything begins no wait. -/
theorem Orderly.armings_of_report {past early late : List Effect} {turn : Turn} {report : Report}
    (orderly : Orderly past turn) (place : turn.effects = early ++ .report report :: late) :
    Link.armings early = 0 := by
  have total := orderly.armings
  rw [place, armings_append, armings_cons] at total
  cases arms : turn.arms with
  | false =>
    rw [arms, Bool.toNat_false] at total
    omega
  | true =>
    have last := orderly.last arms
    rw [place] at last
    induction late using List.reverseRecOn with
    | nil =>
      rw [List.getLast?_concat] at last
      cases last
    | append_singleton rest latest _ =>
      rw [← List.cons_append, ← List.append_assoc, List.getLast?_concat] at last
      cases last
      rw [arms, armings_append] at total
      have one : Link.armings [.note .waitArmed] = 1 := rfl
      rw [one, Bool.toNat_true] at total
      omega

/-- The turn that asked for the reply that is outstanding. -/
theorem asking_of_requested {turns : List Turn} {request : List UInt8}
    (orderly : ∀ before turn after, turns = before ++ turn :: after →
      Orderly (history before) turn)
    (outstanding : requested (history turns) = some request) :
    ∃ former asking between, turns = former ++ asking :: between ∧ asking.arms = true ∧
      endings (history between) = 0 ∧ asking.link.outbound.bytes = request := by
  induction turns using List.reverseRecOn with
  | nil => cases outstanding
  | append_singleton turns last inductionHypothesis =>
    have final := orderly turns last [] rfl
    rw [history_append, history_cons, history_nil, List.append_nil] at outstanding
    cases arms : last.arms with
    | true =>
      refine ⟨turns, last, [], rfl, arms, rfl, ?_⟩
      rw [final.request arms] at outstanding
      exact Option.some.inj outstanding
    | false =>
      have unarmed : Link.armings last.effects = 0 := by rw [final.armings, arms]; rfl
      rw [requested_append] at outstanding
      obtain ⟨earlier, unended⟩ := Exchange.request_of_armings outstanding unarmed
      obtain ⟨former, asking, between, rfl, asks, waits, same⟩ :=
        inductionHypothesis (fun before turn after place => orderly before turn (after ++ [last])
          (by rw [place]; simp)) earlier
      refine ⟨former, asking, between ++ [last], by simp, asks, ?_, same⟩
      rw [history_append, endings_append, waits, history_cons, endings_append, unended]
      rfl

/-- What it means that a session accepted no reply but the answer to its outstanding request. -/
structure AcceptsOnlyAnswers {World : Type} (limit : UInt32) (session : Session World) : Prop where
  /-- A turn that begins a wait sent one frame, its request with the checksum. -/
  transmitted : ∀ before turn after, session.turns = before ++ turn :: after → turn.arms = true →
    ∃ frame, turn.call.request? = some frame ∧
      emitted turn.effects = [frame ++ Checksum.trailer frame] ∧
        turn.link.outbound.bytes = frame ++ Checksum.trailer frame
  /-- Until the outcome is reported the link waits, and keeps the frame that began the wait. -/
  kept : ∀ before turn later, session.turns = before ++ turn :: later → turn.arms = true →
    endings (history later) = 0 →
      session.link.isBusy = true ∧ session.link.outbound.bytes = turn.link.outbound.bytes
  /-- A reply that is accepted is the segment that ended last, is whole, and answers what was sent
  by the turn that began the wait. -/
  accepted : ∀ before turn after early frame late, session.turns = before ++ turn :: after →
    turn.effects = early ++ .report { outcome := .replyAccepted, frame } :: late →
      (Segments.ofHistory limit (history before ++ early)).ended.getLast? = some frame ∧
        frame.length ≤ Adu.maxLength ∧
          ∃ former asking between, before = former ++ asking :: between ∧ asking.arms = true ∧
            endings (history between ++ early) = 0 ∧
              Reply.check asking.link.outbound.bytes frame = .ok ()

/-- However calls on a link follow one another, and whatever its clock, its line and its
application do, every reply that it accepts answers the request whose reply it awaits. -/
theorem every_accepted_reply_answers {World : Type} [Clock World] [Line World] [Journal World]
    [Listener World] (config : Config) (world : World) (moves : List (Move World)) :
    AcceptsOnlyAnswers config.interByteTimeout ((Session.start config world).run moves) := by
  obtain ⟨held, orderly⟩ := Matched.watched.kept.run Orderly config (Matched.initial config)
    (fun link past turn held performed => held.orderly performed) world moves
  have framed := Framed.run config world moves
  generalize (Session.start config world).run moves = session at held orderly framed
  refine ⟨fun before turn after place => (orderly before turn after place).transmitted, ?_, ?_⟩
  · intro before turn later place arms unended
    have grown : session.history = history (before ++ [turn]) ++ history later := by
      rw [Session.history, place]
      simp
    have allowed := held.allowed
    rw [grown, guarded_append] at allowed
    have request := (orderly before turn later place).request arms
    have outstanding : requested session.history = some turn.link.outbound.bytes := by
      rw [grown, requested_append]
      refine Exchange.request_of_endings ?_ allowed.2 unended
      simpa [requested] using request
    rw [held.request] at outstanding
    cases busy : session.link.isBusy with
    | false =>
      rw [busy, if_neg Bool.false_ne_true] at outstanding
      cases outstanding
    | true =>
      rw [busy, if_pos rfl] at outstanding
      exact ⟨rfl, Option.some.inj outstanding⟩
  · intro before turn after early frame late place there
    have grown : session.history = (history before ++ early) ++
        .report { outcome := .replyAccepted, frame } :: (late ++ history after) := by
      rw [Session.history, place]
      simp [there]
    obtain ⟨segment, ended, shown, short⟩ : Segments.Shows _ _ :=
      (framed.1.allowed_at grown).report _ rfl
    have whole : frame = segment := shown.trans (List.take_of_length_le (short rfl))
    obtain ⟨request, outstanding, answers⟩ := (held.allowed.allowed_at grown).answers _ rfl rfl
    rw [List.foldl_append] at outstanding
    have unarmed := (orderly before turn after place).armings_of_report there
    obtain ⟨earlier, unended⟩ := Exchange.request_of_armings outstanding unarmed
    obtain ⟨former, asking, between, rfl, asks, waits, same⟩ := asking_of_requested
      (fun first other rest split => orderly first other (rest ++ turn :: after)
        (by rw [place, split]; simp)) earlier
    refine ⟨?_, ?_, former, asking, between, rfl, asks, ?_, ?_⟩
    · rw [whole]
      exact ended
    · rw [whole]
      exact short rfl
    · rw [endings_append, waits, unended]
    · rw [same]
      exact answers

end Link

end BusNode
