/-
This file proves what a send leaves behind that was refused. A link that awaits no reply is then as
it was before, but for the frame that counts as the last one sent and the count of line errors. That
frame is replaced as soon as a new one is put together, before it is known whether it fits and
whether the line takes it. A refused send keeps it only if the refusal comes before that.

After every run the frame that counts as the last one sent is the one that was put together last,
cut off where the buffer ends. It was sent if the call that put it together was not refused.
-/
import BusNode.Proofs.Link.Sending
import BusNode.Sim.Bench
import BusNode.Sim.Wire

namespace BusNode.Link

/-! ### What a call loads -/

/-- The request of a master that a call makes, if its reply could be received. -/
def Call.receivable? (call : Call) : Option (List UInt8) :=
  call.request?.filter fun request => (Reply.checkFits request).isOk

/-- The frame that a call puts together with its checksum once no reply is awaited. A request is
refused before that if its parts are out of range, or if its reply could not be received. -/
def Call.loads? : Call → Option (List UInt8)
  | .slaveSend _ frame => some frame
  | call => call.receivable?

theorem Call.receivable?_eq_some_iff {call : Call} {frame : List UInt8} :
    call.receivable? = some frame ↔
      call.request? = some frame ∧ Reply.checkFits frame = .ok () := by
  rw [Call.receivable?, Option.filter_eq_some_iff]
  refine and_congr_right fun _ => ?_
  cases Reply.checkFits frame <;> simp [Except.isOk, Except.toBool]

theorem Call.loads?_eq_some_iff {call : Call} {frame : List UInt8} :
    call.loads? = some frame ↔ call.Sends frame := by
  constructor
  · intro loads
    cases call with
    | slaveSend patience loaded =>
      obtain rfl := Option.some.inj loads
      exact .reply patience
    | _ =>
      have receives : Call.receivable? _ = some frame := loads
      obtain ⟨asks, accepted⟩ := Call.receivable?_eq_some_iff.mp receives
      exact .request asks accepted
  · intro sends
    cases sends with
    | reply patience => rfl
    | request asks accepted =>
      have loads : call.loads? = call.receivable? := by
        cases call <;> first | rfl | cases asks
      rw [loads, Call.receivable?_eq_some_iff]
      exact ⟨asks, accepted⟩

/-- The frame that a turn put together. -/
def Turn.loads? (turn : Turn) : Option (List UInt8) :=
  if turn.answer = .waiting then none else turn.call.loads?

/-! ### The outbound frame after a call -/

section Outbound

variable {link next : Link} {frame : List UInt8} {result : SendResult} {effects : List Effect}

theorem Serviced.outbound (serviced : Serviced link effects next) :
    next.outbound = link.outbound := by
  cases serviced with
  | @parts waited framed _ _ _ _ deadline silence reception =>
    have early : waited.outbound = link.outbound := by cases deadline <;> rfl
    have middle : framed.outbound = waited.outbound := by cases silence <;> rfl
    have late : next.outbound = framed.outbound := by cases reception <;> rfl
    rw [late, middle, early]

theorem Pumped.outbound (pumped : Pumped link effects next) : next.outbound = link.outbound := by
  induction pumped with
  | done => rfl
  | step _ serviced _ inductionHypothesis => exact inductionHypothesis.trans serviced.outbound

theorem Delivery.outbound_eq (delivery : Delivery frame link result effects next) :
    next.outbound.bytes = if result = .waiting then link.outbound.bytes else cut frame := by
  cases delivery with
  | waiting pumped _ => rw [if_pos rfl, pumped.outbound]
  | refused _ _ load => exact (load_spec load).2
  | failed _ _ load transmission | sent _ _ load transmission =>
    exact (congrArg FrameBuffer.bytes transmission.outbound).trans (load_spec load).2

theorem Sending.outbound_eq (sending : Sending frame link result effects next) :
    next.outbound.bytes = if result = .waiting then link.outbound.bytes else cut frame := by
  cases sending with
  | reply delivery => exact delivery.outbound_eq
  | request accepted requested =>
    cases requested with
    | unfit unfit => cases accepted.symm.trans unfit
    | unsent _ delivery _ => exact delivery.outbound_eq
    | sent _ delivery armed => cases armed <;> exact delivery.outbound_eq

/-- A call that puts no frame together leaves the outbound frame alone. If it was to send one, it
does not, and leaves everything alone. -/
theorem Performed.unloaded {call : Call} {answer : Answer}
    (performed : Performed link call answer effects next) (unloaded : call.loads? = none) :
    next.outbound = link.outbound ∧
      (call.patience?.isSome = true → next = link ∧ answer ≠ .done) := by
  have unfit {request : List UInt8} (asks : call.request? = some request) :
      Reply.checkFits request ≠ .ok () := by
    intro accepted
    rw [Call.loads?_eq_some_iff.mpr (.request asks accepted)] at unloaded
    cases unloaded
  have kept {request : List UInt8} {result : SendResult} {later : List Effect}
      (asks : call.request? = some request)
      (requested : Requested request link result later next) :
      next = link ∧ Answer.ofSend result ≠ .done := by
    cases requested with
    | unfit _ => exact ⟨rfl, nofun⟩
    | unsent fits _ _ | sent fits _ _ => exact absurd fits (unfit asks)
  cases performed with
  | service serviced => exact ⟨serviced.outbound, nofun⟩
  | sendRaw transmission => exact ⟨transmission.outbound, nofun⟩
  | slaveSend _ => cases unloaded
  | masterSend requested =>
    obtain ⟨rfl, undone⟩ := kept rfl requested
    exact ⟨rfl, fun _ => ⟨rfl, undone⟩⟩
  | named named asked =>
    cases asked with
    | malformed _ => exact ⟨rfl, fun _ => ⟨rfl, nofun⟩⟩
    | built requested =>
      obtain ⟨rfl, undone⟩ := kept (Call.request?_of_named named) requested
      exact ⟨rfl, fun _ => ⟨rfl, undone⟩⟩
  | setSlaveId _ | keepSlaveId _ | setPacketLogging => exact ⟨rfl, nofun⟩

/-- A call leaves in the outbound buffer what it put together, and otherwise what was there. -/
theorem Performed.outbound_eq {call : Call} {answer : Answer}
    (performed : Performed link call answer effects next) :
    next.outbound.bytes =
      (Turn.loads? ⟨call, answer, effects, next⟩).elim link.outbound.bytes cut := by
  rw [Turn.loads?]
  cases loads : call.loads? with
  | none =>
    rw [(performed.unloaded loads).1]
    split <;> rfl
  | some frame =>
    obtain ⟨result, _, _, rfl, -, -, -, sending⟩ :=
      performed.sending (Call.loads?_eq_some_iff.mp loads)
    rw [sending.outbound_eq]
    cases result <;> rfl

end Outbound

/-! ### Refusals -/

/-- A link after a send that was refused, the outbound frame left out. At most a line error was
counted. -/
structure Spared (link next : Link) : Prop where
  same : { next with
    outbound := link.outbound
    stats := { next.stats with lineErrors := link.stats.lineErrors } } = link

theorem Delivery.spared {link next : Link} {frame : List UInt8} {error : Error}
    {effects : List Effect} (delivery : Delivery frame link (.refused error) effects next)
    (free : link.isBusy = false) : Spared link next := by
  cases delivery with
  | refused pumped _ load =>
    obtain ⟨-, rfl⟩ := pumped.of_free free
    rw [load_eq load]
    exact ⟨rfl⟩
  | failed pumped _ load transmission =>
    obtain ⟨-, rfl⟩ := pumped.of_free free
    cases transmission
    rw [load_eq load]
    exact ⟨rfl⟩

/-- A send that is refused spares all but the outbound frame, if the link did not have to wait. If
it put no frame together it spares that as well. -/
theorem Performed.spared {link next : Link} {call : Call} {answer : Answer} {error : Error}
    {effects : List Effect} (performed : Performed link call answer effects next)
    (refused : answer = .refused error) (sends : call.patience?.isSome = true)
    (free : link.isBusy = false) :
    Spared link next ∧ (call.loads? = none → next = link) := by
  cases loads : call.loads? with
  | none =>
    obtain ⟨rfl, -⟩ := (performed.unloaded loads).2 sends
    exact ⟨⟨rfl⟩, fun _ => rfl⟩
  | some frame =>
    obtain ⟨result, _, _, answered, -, -, -, sending⟩ :=
      performed.sending (Call.loads?_eq_some_iff.mp loads)
    obtain rfl : result = .refused error := Answer.ofSend_injective (answered.symm.trans refused)
    exact ⟨(sending.delivery (by simp)).spared free, nofun⟩

/-! ### Sends that went out -/

/-- A frame that a turn put together, and that was put on the line whole. -/
structure Turn.Sent (turn : Turn) (frame : List UInt8) : Prop where
  loads : turn.loads? = some frame
  whole : cut frame = frame ++ Checksum.trailer frame
  emitted : emitted turn.effects = [frame ++ Checksum.trailer frame]

/-- A turn that was to send a frame, and did, put one on the line. -/
theorem Performed.sent {link : Link} {turn : Turn}
    (performed : Performed link turn.call turn.answer turn.effects turn.link)
    (sends : turn.call.patience?.isSome = true) (done : turn.answer = .done) :
    ∃ frame, turn.Sent frame := by
  cases loads : turn.call.loads? with
  | none => exact absurd done ((performed.unloaded loads).2 sends).2
  | some frame =>
    obtain ⟨result, notes, later, answered, same, unwritten, -, sending⟩ :=
      performed.sending (Call.loads?_eq_some_iff.mp loads)
    obtain rfl : result = .sent := Answer.ofSend_injective (answered.symm.trans done)
    obtain ⟨fits, emitted⟩ := sending.emitted
    refine ⟨frame, ?_, cut_of_fits fits, ?_⟩
    · rw [Turn.loads?, done, if_neg (by decide), loads]
    · rw [same, emitted_append, unwritten, List.nil_append, emitted]

/-! ### The frame that counts as the last one sent -/

section Runs

variable {World : Type} [Clock World] [Line World] [Journal World] [Listener World]

/-- After every run the outbound buffer holds the frame that was put together last. -/
theorem outbound_run (link : Link) (world : World) (moves : List (Move World)) :
    (({ link, world } : Session World).run moves).link.outbound.bytes =
      ((({ link, world } : Session World).run moves).turns.filterMap Turn.loads?).getLast?.elim
        link.outbound.bytes cut := by
  refine Session.run_induction (motive := fun session => session.link.outbound.bytes =
    (session.turns.filterMap Turn.loads?).getLast?.elim link.outbound.bytes cut) rfl
    (fun _ _ held => held) ?_ moves
  intro session call answer effects next world held performed
  rw [performed.outbound_eq, held, List.filterMap_append, List.filterMap_cons, List.filterMap_nil,
    List.getLast?_append]
  cases Turn.loads? ⟨call, answer, effects, next⟩ <;> rfl

/-- In every run a send that went out put its frame on the line. -/
theorem sent_run (link : Link) (world : World) (moves : List (Move World)) :
    ∀ turn ∈ (({ link, world } : Session World).run moves).turns,
      turn.call.patience?.isSome = true → turn.answer = .done → ∃ frame, turn.Sent frame := by
  refine Session.run_induction (motive := fun session => ∀ turn ∈ session.turns,
    turn.call.patience?.isSome = true → turn.answer = .done → ∃ frame, turn.Sent frame) ?_
    (fun _ _ held => held) ?_ moves
  · exact fun turn member => absurd member List.not_mem_nil
  intro session call answer effects next world held performed turn member sends done
  rcases List.mem_append.mp member with earlier | last
  · exact held turn earlier sends done
  · obtain rfl := List.mem_singleton.mp last
    exact performed.sent sends done

/-- A frame that was sent is the outbound frame for as long as no other is put together. -/
theorem outbound_of_sent {link : Link} {world : World} {moves : List (Move World)}
    {before after : List Turn} {turn : Turn}
    (place : (({ link, world } : Session World).run moves).turns = before ++ turn :: after)
    (sends : turn.call.patience?.isSome = true) (done : turn.answer = .done)
    (alone : ∀ later ∈ after, later.loads? = none) :
    ∃ frame, emitted turn.effects = [frame ++ Checksum.trailer frame] ∧
      (({ link, world } : Session World).run moves).link.outbound.bytes =
        frame ++ Checksum.trailer frame := by
  have member : turn ∈ (({ link, world } : Session World).run moves).turns :=
    place ▸ List.mem_append_right before List.mem_cons_self
  obtain ⟨frame, sent⟩ := sent_run link world moves turn member sends done
  have rest : after.filterMap Turn.loads? = [] := List.filterMap_eq_nil_iff.mpr alone
  refine ⟨frame, sent.emitted, ?_⟩
  rw [outbound_run, place, List.filterMap_append, List.filterMap_cons_some sent.loads, rest,
    List.getLast?_append]
  exact sent.whole

/-- A send that is refused by a link that awaits no reply changes nothing but the outbound frame and
the count of line errors, and the outbound frame only if it got as far as putting a new one
together. Then that one counts as the last frame sent, cut off where the buffer ends, although it
was not sent. After every run the outbound frame is the one that was put together last, if there was
any. It is the last frame sent if no later send put one together and was refused. -/
theorem refused_send_shows_in_outbound (link : Link) (world : World) :
    (∀ (call : Call) (error : Error) (next : Link) (after : World),
      call.patience?.isSome = true → link.isBusy = false →
      call.perform link world = ((.refused error, next), after) →
        Spared link next ∧ (call.loads? = none → next = link) ∧
          next.outbound.bytes = call.loads?.elim link.outbound.bytes cut) ∧
    ∀ (moves : List (Move World)) (session : Session World),
      ({ link, world } : Session World).run moves = session →
        session.link.outbound.bytes =
            (session.turns.filterMap Turn.loads?).getLast?.elim link.outbound.bytes cut ∧
          ∀ before turn after, session.turns = before ++ turn :: after →
            turn.call.patience?.isSome = true → turn.answer = .done →
            (∀ later ∈ after, later.loads? = none) →
              ∃ frame, emitted turn.effects = [frame ++ Checksum.trailer frame] ∧
                session.link.outbound.bytes = frame ++ Checksum.trailer frame := by
  refine ⟨?_, ?_⟩
  · intro call error next after sends free refused
    obtain ⟨answer, effects, last, world', -, performed, -, same⟩ :=
      ({ link, world } : Session World).move_call call
    cases same.symm.trans refused
    obtain ⟨spared, unloaded⟩ := performed.spared rfl sends free
    exact ⟨spared, unloaded, performed.outbound_eq⟩
  · rintro moves session rfl
    refine ⟨outbound_run link world moves, ?_⟩
    intro before turn after place sends done alone
    exact outbound_of_sent place sends done alone

end Runs

/-- A reply for whose checksum there is room for one byte only is refused, and most of it is left in
the outbound buffer. A short one goes out and stays there. -/
theorem long_reply_shows_in_outbound :
    (∃ next : Link, Spared { config := {} } next ∧
      next.outbound.bytes = cut (List.replicate 39 0x11)) ∧
      (({ link := { config := {} }, world := { line := {} } } : Session (Sim.Bench Sim.Wire)).run
        [.call (.slaveSend 0 [0x11, 0x03, 0x02, 0xAB, 0xCD])]).link.outbound.bytes =
          [0x11, 0x03, 0x02, 0xAB, 0xCD] ++ Checksum.trailer [0x11, 0x03, 0x02, 0xAB, 0xCD] := by
  obtain ⟨refusals, runs⟩ :=
    refused_send_shows_in_outbound { config := {} } ({ line := {} } : Sim.Bench Sim.Wire)
  constructor
  · have refused : ((Call.slaveSend 0 (List.replicate 39 0x11)).perform { config := {} }
        ({ line := {} } : Sim.Bench Sim.Wire)).1.1 = .refused (.bufferFull Adu.maxLength) := by
      decide +kernel
    obtain ⟨spared, -, outbound⟩ := refusals (.slaveSend 0 (List.replicate 39 0x11))
      (.bufferFull Adu.maxLength) _ _ rfl rfl (Prod.ext (Prod.ext refused rfl) rfl)
    exact ⟨_, spared, outbound⟩
  · obtain ⟨-, sent⟩ := runs [.call (.slaveSend 0 [0x11, 0x03, 0x02, 0xAB, 0xCD])] _ rfl
    obtain ⟨frame, emitted, outbound⟩ :=
      sent [] _ [] rfl rfl (by decide +kernel) (fun _ absent => absurd absent List.not_mem_nil)
    have same : [frame ++ Checksum.trailer frame] =
        [[0x11, 0x03, 0x02, 0xAB, 0xCD] ++ Checksum.trailer [0x11, 0x03, 0x02, 0xAB, 0xCD]] :=
      emitted.symm.trans (by decide +kernel)
    exact outbound.trans (List.singleton_inj.mp same)

/-- A reply has gone out when the line refuses the next one. The one that was refused counts as the
last frame sent. -/
theorem refused_reply_counts_as_sent :
    ∃ (sent failed : (SendResult × Link) × Sim.Bench Sim.Wire),
      ({ config := {} } : Link).slaveSend 0 [0x11, 0x03, 0x02, 0xAB, 0xCD]
          ({ line := {} } : Sim.Bench Sim.Wire) = sent ∧
        sent.1.2.slaveSend 0 [0x11, 0x06, 0x00, 0x01, 0x00, 0xFF]
          { sent.2 with line := { sent.2.line with refusing := true } } = failed ∧
        sent.1.1 = .sent ∧ sent.1.2.isBusy = false ∧
        failed.1.1 = .refused (.line .refusedWrite) ∧
        failed.1.2.outbound.bytes ≠ sent.1.2.outbound.bytes :=
  ⟨_, _, rfl, rfl, by decide +kernel, by decide +kernel, by decide +kernel, by decide +kernel⟩

end BusNode.Link
