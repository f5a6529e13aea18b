/-
This file says in which ways a send can go, whatever the world answers. The line is released in each
of them. A send that has to wait is a row of steps, all taken while a reply is awaited, and then
either more waiting, a refusal, or one use of the line by a link that awaits nothing.
-/
import BusNode.Link.Send
import BusNode.Proofs.Frame.Log
import BusNode.Proofs.Link.Step

namespace BusNode.Link

/-! ### The ways in which a send can go -/

/-- How bytes are written while the line is held. -/
inductive Writing (bytes : List UInt8) : Except Error Unit → List Effect → Prop where
  | notDriven (error : Error) : Writing bytes (.error error) [.drive true (.error error)]
  | notTaken (error : Error) :
      Writing bytes (.error error) [.drive true (.ok ()), .write bytes (.error error)]
  | taken (flushed : Except Error Unit) :
      Writing bytes flushed [.drive true (.ok ()), .write bytes (.ok ()), .flush flushed]

/-- How the line is held for sending bytes, and released. -/
inductive Occupation (bytes : List UInt8) : Except Error Unit → List Effect → Prop where
  | failed {error : Error} {effects : List Effect} (writing : Writing bytes (.error error) effects)
      (released : Except Error Unit) :
      Occupation bytes (.error error) (effects ++ [.drive false released])
  | written {effects : List Effect} (writing : Writing bytes (.ok ()) effects)
      (released : Except Error Unit) :
      Occupation bytes released (effects ++ [.drive false released])

/-- How a link sends bytes as they are. -/
inductive Transmission (bytes : List UInt8) (link : Link) :
    Except Error Unit → List Effect → Link → Prop where
  | failed {error : Error} {effects : List Effect}
      (occupation : Occupation bytes (.error error) effects) :
      Transmission bytes link (.error error) (effects ++ [.note (.transmitFailed error)])
        link.failed
  | sent {effects : List Effect} (occupation : Occupation bytes (.ok ()) effects) :
      Transmission bytes link (.ok ())
        (effects ++ Effect.noteIf link.config.packetLogging
          (.packet "send" (Adu.slaveId? bytes) bytes))
        { link with stats := link.stats.countSent }

/-- A row of steps, each taken while a reply is awaited. -/
inductive Pumped : Link → List Effect → Link → Prop where
  | done {link : Link} : Pumped link [] link
  | step {link middle next : Link} {effects later : List Effect} (busy : link.isBusy = true)
      (serviced : Serviced link effects middle) (rest : Pumped middle later next) :
      Pumped link (effects ++ later) next

/-- How a frame is sent that has to wait for the end of an exchange. -/
inductive Delivery (frame : List UInt8) (link : Link) :
    SendResult → List Effect → Link → Prop where
  | waiting {next : Link} {effects : List Effect} (pumped : Pumped link effects next)
      (busy : next.isBusy = true) : Delivery frame link .waiting effects next
  | refused {idle next : Link} {effects : List Effect} {error : Error}
      (pumped : Pumped link effects idle) (free : idle.isBusy = false)
      (loaded : idle.load frame = (.error error, next)) :
      Delivery frame link (.refused error) effects next
  | failed {idle loaded next : Link} {effects later : List Effect} {error : Error}
      (pumped : Pumped link effects idle) (free : idle.isBusy = false)
      (load : idle.load frame = (.ok (), loaded))
      (transmission : Transmission loaded.outbound.bytes loaded (.error error) later next) :
      Delivery frame link (.refused error) (effects ++ later) next
  | sent {idle loaded next : Link} {effects later : List Effect}
      (pumped : Pumped link effects idle) (free : idle.isBusy = false)
      (load : idle.load frame = (.ok (), loaded))
      (transmission : Transmission loaded.outbound.bytes loaded (.ok ()) later next) :
      Delivery frame link .sent (effects ++ later) next

/-- How a link begins to wait for a reply, or does not. -/
inductive Armed (link : Link) : List Effect → Link → Prop where
  | awaited (now : UInt32) (awaited : 0 < Reply.expectedLength link.outbound.bytes) :
      Armed link [.millis now, .note .waitArmed] { link with waitingSince := some now }
  | unawaited (unawaited : Reply.expectedLength link.outbound.bytes = 0) : Armed link [] link

/-- How the request of a master is sent. -/
inductive Requested (frame : List UInt8) (link : Link) :
    SendResult → List Effect → Link → Prop where
  | unfit {error : Error} (unfit : Reply.checkFits frame = .error error) :
      Requested frame link (.refused error) [] link
  | unsent {result : SendResult} {effects : List Effect} {next : Link}
      (fits : Reply.checkFits frame = .ok ()) (delivery : Delivery frame link result effects next)
      (unsent : result ≠ .sent) : Requested frame link result effects next
  | sent {middle next : Link} {effects later : List Effect}
      (fits : Reply.checkFits frame = .ok ()) (delivery : Delivery frame link .sent effects middle)
      (armed : Armed middle later next) : Requested frame link .sent (effects ++ later) next

/-- What is noted about a request that was put together. -/
def builtEffects (frame : Frame) : List Effect :=
  match frame.functionCode? with
  | some code => [.note (.frameBuilt code frame.length)]
  | none => []

/-- How a request is sent that may have failed to be put together. -/
inductive Asked (link : Link) : Except Error Frame → SendResult → List Effect → Link → Prop where
  | malformed (error : Error) : Asked link (.error error) (.refused error) [] link
  | built {frame : Frame} {result : SendResult} {effects : List Effect} {next : Link}
      (requested : Requested frame.bytes link result effects next) :
      Asked link (.ok frame) result (builtEffects frame ++ effects) next

/-! ### Effects of a send -/

/-- Where the line raised no fault, bytes were handed to it once, and it took them. -/
theorem Occupation.of_ok {bytes : List UInt8} {effects : List Effect}
    (occupation : Occupation bytes (.ok ()) effects) :
    effects = [.drive true (.ok ()), .write bytes (.ok ()), .flush (.ok ()),
      .drive false (.ok ())] := by
  cases occupation with
  | written writing _ =>
    cases writing with
    | taken _ => rfl

theorem Transmission.incidental {bytes : List UInt8} {link next : Link}
    {result : Except Error Unit} {effects : List Effect}
    (transmission : Transmission bytes link result effects next) :
    ∀ effect ∈ effects, effect.incidental = true := by
  cases transmission with
  | failed occupation =>
    rcases occupation with ⟨writing, _⟩ | ⟨writing, _⟩ <;>
      cases writing <;> simp [Effect.incidental]
  | sent occupation =>
    rw [List.forall_mem_append, Effect.forall_mem_noteIf, occupation.of_ok]
    exact ⟨by simp [Effect.incidental], fun _ => rfl⟩

theorem builtEffects_incidental (frame : Frame) :
    ∀ effect ∈ builtEffects frame, effect.incidental = true := by
  unfold builtEffects
  cases frame.functionCode? <;> simp [Effect.incidental]

/-! ### Loading -/

/-- Only the outbound frame changes when one is loaded. -/
theorem load_eq {link next : Link} {frame : List UInt8} {result : Except Error Unit}
    (load : link.load frame = (result, next)) : next = { link with outbound := next.outbound } := by
  obtain ⟨-, rfl⟩ := Prod.mk.inj load
  rfl

/-- What the outbound buffer has room for of a frame with its checksum. -/
def cut (frame : List UInt8) : List UInt8 :=
  (frame ++ Checksum.trailer frame).take Adu.maxLength

/-- A frame that has room for its checksum is not cut. -/
theorem cut_of_fits {frame : List UInt8}
    (fits : frame.length + Checksum.trailerLength ≤ Adu.maxLength) :
    cut frame = frame ++ Checksum.trailer frame := by
  refine List.take_of_length_le ?_
  rw [List.length_append, Checksum.length_trailer]
  exact fits

theorem pack_eq (frame : List UInt8) :
    pack frame =
      if (FrameBuffer.empty : Frame).takes frame then (FrameBuffer.empty.write frame).appendChecksum
      else (false, FrameBuffer.empty.write frame) := rfl

/-- A frame is packed whole if there is room for it and its checksum. As much of them as there is
room for is left in the buffer, whether or not that is all. -/
theorem pack_spec (frame : List UInt8) :
    (pack frame).1 = decide (frame.length + Checksum.trailerLength ≤ Adu.maxLength) ∧
      (pack frame).2.bytes = cut frame := by
  have bare : (FrameBuffer.empty.write frame : Frame).Logs frame :=
    FrameBuffer.logs_empty.write frame
  have room : (FrameBuffer.empty : Frame).takes frame = true ↔ frame.length ≤ Adu.maxLength :=
    FrameBuffer.takes_iff
  rw [pack_eq]
  split
  · rename_i stored
    have short := room.mp stored
    have kept : (FrameBuffer.empty.write frame : Frame).overflow = false := by
      rw [bare.overflow, decide_eq_false_iff_not, Nat.not_lt]
      exact short
    have left : (FrameBuffer.empty.write frame : Frame).remaining =
        Adu.maxLength - frame.length := by
      rw [FrameBuffer.remaining, bare.bytes_eq kept]
    have trailer : (FrameBuffer.empty.write frame : Frame).appendChecksum.1 =
        decide (Checksum.trailerLength ≤ Adu.maxLength - frame.length) := by
      rw [← left]
      rfl
    refine ⟨?_, (bare.writeChecksum kept).bytes⟩
    rw [trailer, decide_eq_decide, Nat.le_sub_iff_add_le short, Nat.add_comm]
  · rename_i dropped
    have long : Adu.maxLength < frame.length := Nat.lt_of_not_le (mt room.mpr dropped)
    rw [bare.bytes, cut, List.take_append_of_le_length (Nat.le_of_lt long)]
    exact ⟨(decide_eq_false (by omega)).symm, rfl⟩

/-- A frame can be loaded if there is room for it and its checksum, and as much of them as there is
room for is left in the outbound buffer. -/
theorem load_spec {link next : Link} {frame : List UInt8} {result : Except Error Unit}
    (load : link.load frame = (result, next)) :
    result = (if frame.length + Checksum.trailerLength ≤ Adu.maxLength then .ok ()
        else .error (.bufferFull Adu.maxLength)) ∧
      next.outbound.bytes = cut frame := by
  have spec := pack_spec frame
  rcases packed : pack frame with ⟨stored, outbound⟩
  rw [packed] at spec
  obtain ⟨room, bytes⟩ := spec
  dsimp only at room bytes
  rw [Link.load, packed] at load
  obtain ⟨rfl, rfl⟩ := Prod.mk.inj load
  refine ⟨?_, bytes⟩
  rw [room]
  simp only [decide_eq_true_eq]

/-- A frame that is loaded leaves room for its checksum, and stands before it. -/
theorem load_ok {link next : Link} {frame : List UInt8}
    (load : link.load frame = (.ok (), next)) :
    frame.length + Checksum.trailerLength ≤ Adu.maxLength ∧
      next.outbound.bytes = frame ++ Checksum.trailer frame := by
  obtain ⟨accepted, bytes⟩ := load_spec load
  by_cases fits : frame.length + Checksum.trailerLength ≤ Adu.maxLength
  · exact ⟨fits, bytes.trans (cut_of_fits fits)⟩
  · rw [if_neg fits] at accepted
    cases accepted

theorem Transmission.outbound {bytes : List UInt8} {link next : Link} {result : Except Error Unit}
    {effects : List Effect} (transmission : Transmission bytes link result effects next) :
    next.outbound = link.outbound := by
  cases transmission <;> rfl

/-- A frame that was sent stays in the link, with its checksum. -/
theorem Delivery.outbound {frame : List UInt8} {link next : Link} {effects : List Effect}
    (delivery : Delivery frame link .sent effects next) :
    frame.length + Checksum.trailerLength ≤ Adu.maxLength ∧
      next.outbound.bytes = frame ++ Checksum.trailer frame := by
  cases delivery with
  | sent _ _ load transmission =>
    rw [transmission.outbound]
    exact load_ok load

/-! ### A send goes one of these ways -/

section Sends

variable {World : Type} [Clock World] [Line World] [Journal World] [Listener World]

theorem writeFrame_traces (bytes : List UInt8) :
    Traces World (writeFrame bytes) (writeFrame bytes) (Writing bytes) := by
  unfold writeFrame
  refine .bind (.drive true) ?_
  rintro driven _ rfl
  match driven with
  | .error error => exact .pure (.notDriven error)
  | .ok () =>
    refine .bind (.write bytes) ?_
    rintro taken _ rfl
    match taken with
    | .error error => exact .pure (.notTaken error)
    | .ok () =>
      refine Traces.flush.mono ?_
      rintro flushed _ rfl
      exact .taken flushed

/-- The line is released whether or not the bytes could be written. -/
theorem occupyLine_traces (bytes : List UInt8) :
    Traces World (occupyLine bytes) (occupyLine bytes) (Occupation bytes) := by
  unfold occupyLine
  refine .bind (writeFrame_traces bytes) fun written effects writing => ?_
  refine .bind (.drive false) ?_
  rintro released _ rfl
  match written with
  | .error error => exact .pure (.failed writing released)
  | .ok () => exact .pure (.written writing released)

theorem transmit_traces (bytes : List UInt8) (link : Link) :
    Traces World (link.transmit bytes) (link.transmit bytes) fun outcome effects =>
      Transmission bytes link outcome.1 effects outcome.2 := by
  unfold transmit
  refine .bind (occupyLine_traces bytes) fun answer effects occupation => ?_
  match answer with
  | .error error =>
    refine .bind (.note _) ?_
    rintro _ _ rfl
    exact .pure (.failed occupation)
  | .ok () =>
    refine .bind (.noteIf _ _) ?_
    rintro _ _ rfl
    exact .pure (by simpa using Transmission.sent occupation)

theorem pump_traces (patience : Nat) (link : Link) :
    Traces World (link.pump patience) (link.pump patience) fun next effects =>
      Pumped link effects next := by
  induction patience generalizing link with
  | zero => exact .pure .done
  | succ patience inductionHypothesis =>
    unfold pump
    cases busy : link.isBusy with
    | false => exact .pure .done
    | true =>
      refine .bind (service_traces link) fun middle effects serviced => ?_
      exact (inductionHypothesis middle).mono fun next later rest => .step busy serviced rest

theorem deliver_traces (patience : Nat) (frame : List UInt8) (link : Link) :
    Traces World (link.deliver patience frame) (link.deliver patience frame) fun outcome effects =>
      Delivery frame link outcome.1 effects outcome.2 := by
  unfold deliver
  refine .bind (pump_traces patience link) fun idle effects pumped => ?_
  cases busy : idle.isBusy with
  | true => exact .pure (by simpa using Delivery.waiting pumped busy)
  | false =>
    match load : idle.load frame with
    | (.error error, next) => exact .pure (by simpa using Delivery.refused pumped busy load)
    | (.ok (), loaded) =>
      refine .bind (transmit_traces _ loaded) fun outcome later transmission => ?_
      match outcome with
      | (.error error, next) =>
        exact .pure (by simpa using Delivery.failed pumped busy load transmission)
      | (.ok (), next) => exact .pure (by simpa using Delivery.sent pumped busy load transmission)

theorem arm_traces (link : Link) :
    Traces World link.arm link.arm fun next effects => Armed link effects next := by
  unfold arm
  by_cases awaited : 0 < Reply.expectedLength link.outbound.bytes
  · rw [if_pos awaited, if_pos awaited]
    refine .bind .millis ?_
    rintro now _ rfl
    refine .bind (.note _) ?_
    rintro _ _ rfl
    exact .pure (.awaited now awaited)
  · rw [if_neg awaited, if_neg awaited]
    exact .pure (.unawaited (by omega))

theorem masterSend_traces (patience : Nat) (frame : List UInt8) (link : Link) :
    Traces World (link.masterSend patience frame) (link.masterSend patience frame)
      fun outcome effects => Requested frame link outcome.1 effects outcome.2 := by
  unfold masterSend
  match fits : Reply.checkFits frame with
  | .error error => exact .pure (.unfit fits)
  | .ok () =>
    refine .bind (deliver_traces patience frame link) fun outcome effects delivery => ?_
    match outcome with
    | (.sent, middle) =>
      refine .bind (arm_traces middle) fun next later armed => ?_
      exact .pure (by simpa using Requested.sent fits delivery armed)
    | (.refused error, next) =>
      exact .pure (by simpa using Requested.unsent fits delivery (by simp))
    | (.waiting, next) => exact .pure (by simpa using Requested.unsent fits delivery (by simp))

theorem request_traces (patience : Nat) (built : Except Error Frame) (link : Link) :
    Traces World (link.request patience built) (link.request patience built)
      fun outcome effects => Asked link built outcome.1 effects outcome.2 := by
  unfold request
  match built with
  | .error error => exact .pure (.malformed error)
  | .ok frame =>
    dsimp only
    cases named : frame.functionCode? with
    | none =>
      refine (masterSend_traces patience frame.bytes link).mono fun _ _ requested => ?_
      have notes : builtEffects frame = [] := by rw [builtEffects, named]
      simpa only [notes, List.nil_append] using Asked.built requested
    | some code =>
      refine .bind (.note _) ?_
      rintro _ _ rfl
      refine (masterSend_traces patience frame.bytes link).mono fun _ _ requested => ?_
      have notes : builtEffects frame = [.note (.frameBuilt code frame.length)] := by
        rw [builtEffects, named]
      simpa only [notes] using Asked.built requested

end Sends

end BusNode.Link
