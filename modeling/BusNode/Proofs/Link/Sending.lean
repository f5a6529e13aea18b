/-
This file proves that a send goes out at once on a link that awaits no reply, if the frame has room
for its checksum and the line does not fail. A link that sends keeps what it has received so far,
and reports nothing.
-/
import BusNode.Proofs.Link.Hearing

namespace BusNode

/-- Whether the line fails in an effect. Reads do not count. -/
def Effect.fails : Effect → Bool
  | .drive _ (.error _) | .write _ (.error _) | .flush (.error _) => true
  | _ => false

namespace Link

/-! ### Sends that cannot fail -/

theorem Writing.result {bytes : List UInt8} {result : Except Error Unit} {effects : List Effect}
    (writing : Writing bytes result effects) (sound : ∀ effect ∈ effects, effect.fails = false) :
    result = .ok () := by
  cases writing with
  | notDriven error => simp [Effect.fails] at sound
  | notTaken error => simp [Effect.fails] at sound
  | taken _ =>
    match result with
    | .ok () => rfl
    | .error error => simp [Effect.fails] at sound

theorem Occupation.result {bytes : List UInt8} {result : Except Error Unit}
    {effects : List Effect} (occupation : Occupation bytes result effects)
    (sound : ∀ effect ∈ effects, effect.fails = false) : result = .ok () := by
  cases occupation with
  | failed writing _ => exact writing.result (List.forall_mem_append.mp sound).1
  | written _ _ =>
    have last := (List.forall_mem_append.mp sound).2
    match result with
    | .ok () => rfl
    | .error error => simp [Effect.fails] at last

theorem Transmission.result {bytes : List UInt8} {link next : Link} {result : Except Error Unit}
    {effects : List Effect} (transmission : Transmission bytes link result effects next)
    (sound : ∀ effect ∈ effects, effect.fails = false) : result = .ok () := by
  cases transmission with
  | failed occupation => exact occupation.result (List.forall_mem_append.mp sound).1
  | sent _ => rfl

/-- A frame with room for its checksum can be loaded. -/
theorem load_result {link next : Link} {frame : List UInt8} {result : Except Error Unit}
    (load : link.load frame = (result, next))
    (fits : frame.length + Checksum.trailerLength ≤ Adu.maxLength) : result = .ok () :=
  (load_spec load).1.trans (if_pos fits)

/-- Nothing is waited for where no reply is awaited. -/
theorem Pumped.of_free {link next : Link} {effects : List Effect}
    (pumped : Pumped link effects next) (free : link.isBusy = false) :
    effects = [] ∧ next = link := by
  cases pumped with
  | done => exact ⟨rfl, rfl⟩
  | step busy _ _ =>
    rw [free] at busy
    cases busy

/-- A send that does not come back found a reply awaited, and leaves one awaited. -/
theorem Delivery.waits {frame : List UInt8} {link next : Link} {effects : List Effect}
    (delivery : Delivery frame link .waiting effects next) :
    link.isBusy = true ∧ next.isBusy = true := by
  cases delivery with
  | waiting pumped busy =>
    refine ⟨?_, busy⟩
    cases pumped with
    | done => exact busy
    | step first _ _ => exact first

theorem Requested.waits {frame : List UInt8} {link next : Link} {effects : List Effect}
    (requested : Requested frame link .waiting effects next) :
    link.isBusy = true ∧ next.isBusy = true := by
  cases requested with
  | unsent _ delivery _ => exact delivery.waits

/-- A send that comes back has gone out, if the line does not fail. -/
theorem Delivery.sent_of_returned {frame : List UInt8} {link next : Link} {result : SendResult}
    {effects : List Effect} (delivery : Delivery frame link result effects next)
    (returned : result ≠ .waiting)
    (fits : frame.length + Checksum.trailerLength ≤ Adu.maxLength)
    (sound : ∀ effect ∈ effects, effect.fails = false) : result = .sent := by
  cases delivery with
  | waiting _ _ => exact absurd rfl returned
  | refused _ _ load => cases load_result load fits
  | failed _ _ _ transmission => cases transmission.result (List.forall_mem_append.mp sound).2
  | sent _ _ _ _ => rfl

theorem Delivery.result {frame : List UInt8} {link next : Link} {result : SendResult}
    {effects : List Effect} (delivery : Delivery frame link result effects next)
    (free : link.isBusy = false)
    (fits : frame.length + Checksum.trailerLength ≤ Adu.maxLength)
    (sound : ∀ effect ∈ effects, effect.fails = false) : result = .sent := by
  refine delivery.sent_of_returned ?_ fits sound
  rintro rfl
  exact Bool.noConfusion (free.symm.trans delivery.waits.1)

/-! ### What a send leaves -/

/-- What it means that a link sent a frame, with its checksum, and did nothing else but perhaps
begin to wait for the reply. -/
structure Emits (frame : List UInt8) (link : Link) (effects : List Effect) (next : Link) : Prop where
  emitted : emitted effects = [frame ++ Checksum.trailer frame]
  outbound : next.outbound.bytes = frame ++ Checksum.trailer frame
  unreported : reports effects = []
  config : next.config = link.config
  inbound : next.inbound = link.inbound
  lastByteAt : next.lastByteAt = link.lastByteAt

/-- A link that sends goes on with the segment that is open. -/
theorem Cuts.emits {limit : UInt32} {frame : List UInt8} {link next : Link} {segments : Segments}
    {shown : List (List UInt8)} {effects : List Effect} (cuts : Cuts limit link segments shown)
    (emits : Emits frame link effects next) : Cuts limit next segments shown := by
  obtain ⟨-, -, -, config, inbound, lastByteAt⟩ := emits
  refine ⟨?_, ?_, ?_, ?_, cuts.nonempty, cuts.shown⟩
  · rw [config]
    exact cuts.limited
  · rw [inbound]
    exact cuts.logs
  · rw [lastByteAt]
    exact cuts.stamp
  · rw [lastByteAt]
    exact cuts.closed

theorem reports_of_incidental {effects : List Effect}
    (incidental : ∀ effect ∈ effects, effect.incidental = true) : reports effects = [] := by
  refine List.filterMap_eq_nil_iff.mpr fun effect member => ?_
  have plain := incidental effect member
  cases effect with
  | report given => cases plain
  | _ => rfl

theorem Delivery.emits {frame : List UInt8} {link next : Link} {effects : List Effect}
    (delivery : Delivery frame link .sent effects next) (free : link.isBusy = false) :
    Emits frame link effects next := by
  have emitted := delivery.emitted
  have outbound := delivery.outbound.2
  cases delivery with
  | @sent idle loaded _ _ later pumped _ load transmission =>
    obtain ⟨rfl, rfl⟩ := pumped.of_free free
    have unreported := reports_of_incidental transmission.incidental
    have loaded := load_eq load
    refine ⟨emitted, outbound, unreported, ?_, ?_, ?_⟩ <;> cases transmission <;> rw [loaded]

/-- The request of a master that goes out at once. -/
theorem Requested.emits {frame : List UInt8} {link next : Link} {result : SendResult}
    {effects : List Effect} (requested : Requested frame link result effects next)
    (checked : Reply.checkFits frame = .ok ()) (free : link.isBusy = false)
    (fits : frame.length + Checksum.trailerLength ≤ Adu.maxLength)
    (awaited : 0 < Reply.expectedLength (frame ++ Checksum.trailer frame))
    (sound : ∀ effect ∈ effects, effect.fails = false) :
    result = .sent ∧ Emits frame link effects next ∧ next.isBusy = true := by
  cases requested with
  | unfit unfit =>
    rw [checked] at unfit
    cases unfit
  | unsent _ delivery unsent => exact absurd (delivery.result free fits sound) unsent
  | sent _ delivery armed =>
    obtain ⟨emitted, outbound, unreported, config, inbound, lastByteAt⟩ := delivery.emits free
    cases armed with
    | awaited now _ =>
      refine ⟨rfl, ⟨?_, outbound, ?_, config, inbound, lastByteAt⟩, rfl⟩
      · rw [emitted_append, emitted]
        rfl
      · rw [reports_append, unreported]
        rfl
    | unawaited unawaited =>
      rw [outbound] at unawaited
      omega

theorem reports_builtEffects (frame : Frame) : reports (builtEffects frame) = [] :=
  reports_of_incidental (builtEffects_incidental frame)

/-- A request by name that goes out at once. -/
theorem Performed.emits_request {call : Call} {answer : Answer} {link next : Link}
    {effects : List Effect} {patience : Nat} {frame : Frame}
    (performed : Performed link call answer effects next)
    (named : call.named? = some (patience, .ok frame))
    (checked : Reply.checkFits frame.bytes = .ok ()) (free : link.isBusy = false)
    (fits : frame.length + Checksum.trailerLength ≤ Adu.maxLength)
    (awaited : 0 < Reply.expectedLength (frame.bytes ++ Checksum.trailer frame.bytes))
    (sound : ∀ effect ∈ effects, effect.fails = false) :
    answer = .done ∧ Emits frame.bytes link effects next ∧ next.isBusy = true := by
  cases performed with
  | @named _ _ _ _ _ _ same asked =>
    obtain ⟨-, rfl⟩ := Prod.mk.inj (Option.some.inj (same.symm.trans named))
    cases asked with
    | built requested =>
      obtain ⟨rfl, emits, busy⟩ := requested.emits checked free fits awaited
        (List.forall_mem_append.mp sound).2
      refine ⟨rfl, { emits with emitted := ?_, unreported := ?_ }, busy⟩
      · rw [emitted_append, emitted_builtEffects, emits.emitted]
        rfl
      · rw [reports_append, reports_builtEffects, emits.unreported]
        rfl
  | _ => cases named

/-- The reply of a slave that goes out at once. -/
theorem Performed.emits_reply {answer : Answer} {link next : Link} {effects : List Effect}
    {patience : Nat} {frame : List UInt8}
    (performed : Performed link (.slaveSend patience frame) answer effects next)
    (free : link.isBusy = false)
    (fits : frame.length + Checksum.trailerLength ≤ Adu.maxLength)
    (sound : ∀ effect ∈ effects, effect.fails = false) :
    answer = .done ∧ Emits frame link effects next ∧ next.isBusy = false := by
  cases performed with
  | slaveSend delivery =>
    obtain rfl := delivery.result free fits sound
    exact ⟨rfl, delivery.emits free, delivery.free⟩
  | named named _ => cases named

/-! ### Calls that send a frame -/

/-- What it means that a call is to send a frame: as the reply of a slave, or as the request of a
master whose reply could be received. -/
inductive Call.Sends (frame : List UInt8) : Call → Prop where
  | reply (patience : Nat) : Sends frame (.slaveSend patience frame)
  | request {call : Call} (asks : call.request? = some frame)
      (accepted : Reply.checkFits frame = .ok ()) : Sends frame call

/-- How a call goes that is to send a frame, after it has noted what it may have to note. -/
inductive Sending (frame : List UInt8) (link : Link) :
    SendResult → List Effect → Link → Prop where
  | reply {result : SendResult} {effects : List Effect} {next : Link}
      (delivery : Delivery frame link result effects next) : Sending frame link result effects next
  | request {result : SendResult} {effects : List Effect} {next : Link}
      (accepted : Reply.checkFits frame = .ok ())
      (requested : Requested frame link result effects next) :
      Sending frame link result effects next

theorem Performed.sending {link next : Link} {call : Call} {answer : Answer} {effects : List Effect}
    {frame : List UInt8} (performed : Performed link call answer effects next)
    (sends : call.Sends frame) :
    ∃ result notes later, answer = .ofSend result ∧ effects = notes ++ later ∧
      emitted notes = [] ∧ Quiet link notes link ∧ Sending frame link result later next := by
  have still : Quiet link [] link := ⟨by simp, rfl, fun _ => rfl⟩
  cases sends with
  | reply patience =>
    cases performed with
    | slaveSend delivery => exact ⟨_, [], _, rfl, rfl, rfl, still, .reply delivery⟩
    | named named _ => cases named
  | request asks accepted =>
    cases performed with
    | masterSend requested =>
      obtain rfl := Option.some.inj asks
      exact ⟨_, [], _, rfl, rfl, rfl, still, .request accepted requested⟩
    | named named asked =>
      cases asked with
      | malformed error => cases (Call.request?_of_malformed named).symm.trans asks
      | @built built _ _ _ requested =>
        obtain rfl := Option.some.inj ((Call.request?_of_named named).symm.trans asks)
        exact ⟨_, _, _, rfl, rfl, emitted_builtEffects built, builtEffects_quiet built link,
          .request accepted requested⟩
    | _ => cases asks

theorem Sending.delivery {frame : List UInt8} {link next : Link} {result : SendResult}
    {effects : List Effect} (sending : Sending frame link result effects next)
    (unsent : result ≠ .sent) : Delivery frame link result effects next := by
  cases sending with
  | reply delivery => exact delivery
  | request accepted requested =>
    cases requested with
    | unfit unfit => cases accepted.symm.trans unfit
    | unsent _ delivery _ => exact delivery
    | sent _ _ _ => exact absurd rfl unsent

/-- A frame that goes out has room for its checksum, and is put on the line once, with it. -/
theorem Sending.emitted {frame : List UInt8} {link next : Link} {effects : List Effect}
    (sending : Sending frame link .sent effects next) :
    frame.length + Checksum.trailerLength ≤ Adu.maxLength ∧
      Link.emitted effects = [frame ++ Checksum.trailer frame] := by
  cases sending with
  | reply delivery => exact ⟨delivery.outbound.1, delivery.emitted⟩
  | request _ requested =>
    refine ⟨?_, requested.emitted.1⟩
    cases requested with
    | unsent _ _ unsent => exact absurd rfl unsent
    | sent _ delivery _ => exact delivery.outbound.1

/-- A call that is to send a frame puts it on the line once, with its checksum. -/
theorem Performed.emitted_of_sends {link next : Link} {call : Call} {answer : Answer}
    {effects : List Effect} {frame : List UInt8}
    (performed : Performed link call answer effects next) (sends : call.Sends frame)
    (returned : answer ≠ .waiting)
    (fits : frame.length + Checksum.trailerLength ≤ Adu.maxLength)
    (sound : ∀ effect ∈ effects, effect.fails = false) :
    answer = .done ∧ emitted effects = [frame ++ Checksum.trailer frame] := by
  obtain ⟨result, notes, later, rfl, rfl, unwritten, -, sending⟩ := performed.sending sends
  have sent : result = .sent := by
    by_contra unsent
    refine unsent ((sending.delivery unsent).sent_of_returned ?_ fits
      (List.forall_mem_append.mp sound).2)
    rintro rfl
    exact returned rfl
  subst sent
  rw [emitted_append, unwritten, List.nil_append]
  exact ⟨rfl, sending.emitted.2⟩

end Link

end BusNode
