/-
This file proves that what one node sends, another receives unchanged. A frame goes out on one link,
as a reply or as a request, and its bytes come in on another link that is at rest. The two links and
their worlds have nothing in common but these bytes, so the encoder of the one and the decoder of
the other have to agree for every frame that leaves room for its checksum.
-/
import BusNode.Proofs.Link.Pair
import BusNode.Proofs.Link.Sending

namespace BusNode.Link

/-! ### From one link to another -/

/-- One frame that goes from one link to another. -/
structure Transfer (SenderWorld ReceiverWorld : Type) where
  /-- The sender in front of the call that is to send the frame. -/
  sender : Session SenderWorld
  call : Call
  /-- The frame, its checksum left out. -/
  frame : List UInt8
  /-- The receiver before it reads the first byte of the frame. -/
  receiver : Session ReceiverWorld
  /-- What happens at the receiver from then on. -/
  moves : List (Move ReceiverWorld)

namespace Transfer

variable {SenderWorld ReceiverWorld : Type} [Clock SenderWorld] [Line SenderWorld]
  [Journal SenderWorld] [Listener SenderWorld] [Clock ReceiverWorld] [Line ReceiverWorld]
  [Journal ReceiverWorld] [Listener ReceiverWorld]

/-- The sender after its call. -/
def called (transfer : Transfer SenderWorld ReceiverWorld) : Session SenderWorld :=
  transfer.sender.move (.call transfer.call)

/-- The bytes that the line of the sender took. -/
def sent (transfer : Transfer SenderWorld ReceiverWorld) : List UInt8 :=
  (emitted (transfer.sender.since transfer.called)).flatten

/-- The receiver in the end. -/
def heard (transfer : Transfer SenderWorld ReceiverWorld) : Session ReceiverWorld :=
  transfer.receiver.run transfer.moves

/-- What a frame needs to reach the receiver. -/
structure Admissible (transfer : Transfer SenderWorld ReceiverWorld) : Prop where
  sends : transfer.call.Sends transfer.frame
  /-- The frame has a function code and a byte of payload. -/
  long : 3 ≤ transfer.frame.length
  /-- The frame leaves room for its checksum. -/
  fits : transfer.frame.length + Checksum.trailerLength ≤ Adu.maxLength
  /-- The frame begins with the id that some slave may have. -/
  named : (Adu.slaveId? transfer.frame).any Adu.isSlaveId = true
  /-- The sender may await a reply to an earlier request, but not for as long as its patience. -/
  returned : transfer.called.answer? ≠ some .waiting
  /-- The line of the sender does not fail. -/
  sound : ∀ effect ∈ transfer.sender.since transfer.called, effect.fails = false
  receiverReached : transfer.receiver.Reached
  receiverRests : transfer.receiver.link.Rests
  /-- The receiver only takes steps. -/
  serves : ∀ move ∈ transfer.moves, move.Serves
  /-- It reads what the sender sent, with no gap beyond its limit, and finds the silence after it. -/
  arrives : takesIn transfer.receiver.link.config.interByteTimeout transfer.sent
    (transfer.receiver.since transfer.heard) = true

/-- What it means that the receiver got what the sender sent. -/
structure Succeeds (transfer : Transfer SenderWorld ReceiverWorld) : Prop where
  answered : transfer.called.answer? = some .done
  sent : transfer.sent = transfer.frame ++ Checksum.trailer transfer.frame
  /-- All that the receiver is told: the frame with its checksum, as a request to the slave that the
  first byte of the frame names. -/
  reports : reports (transfer.receiver.since transfer.heard) =
    [{ outcome :=
        if Adu.slaveId? transfer.frame = some transfer.receiver.link.config.slaveId then
          .requestForUs
        else .requestForOther
       frame := transfer.frame ++ Checksum.trailer transfer.frame }]
  rests : transfer.heard.link.Rests

variable {transfer : Transfer SenderWorld ReceiverWorld}

theorem Admissible.sent (admissible : transfer.Admissible) :
    transfer.called.answer? = some .done ∧
      transfer.sent = transfer.frame ++ Checksum.trailer transfer.frame := by
  obtain ⟨answer, effects, grown, answered, performed, -⟩ := transfer.sender.move_grows transfer.call
  have returned := admissible.returned
  rw [called, answered] at returned
  have sound := admissible.sound
  rw [called, Session.since_eq grown] at sound
  obtain ⟨rfl, emitted⟩ := performed.emitted_of_sends admissible.sends
    (fun waiting => returned (congrArg some waiting)) admissible.fits sound
  refine ⟨answered, ?_⟩
  rw [Transfer.sent, called, Session.since_eq grown, emitted, List.flatten_singleton]

/-- What a receiver counts a frame as that was sent. -/
theorem Admissible.judged (admissible : transfer.Admissible) (id : UInt8) :
    judgeRequest id (transfer.frame ++ Checksum.trailer transfer.frame) =
      if Adu.slaveId? transfer.frame = some id then .requestForUs else .requestForOther := by
  have named := admissible.named
  obtain ⟨slave, first, valid⟩ := (Option.any_eq_true ..).mp named
  rw [judgeRequest_append_trailer admissible.long admissible.fits first valid, first]
  simp only [Option.some.injEq]

/-- Whatever frame is sent on one link, as a reply or as a request: if its bytes come in on another
link without gaps, that link reports the frame with its checksum, once and unchanged, and reports
nothing else. -/
theorem every_frame_arrives_unchanged (admissible : transfer.Admissible) : transfer.Succeeds := by
  obtain ⟨answered, sent⟩ := admissible.sent
  obtain ⟨limit, segments, shown, cuts⟩ := admissible.receiverReached.cuts
  have hears := Hears.begin cuts admissible.receiverRests.blank
  rw [admissible.receiverRests.waitingSince] at hears
  obtain ⟨effects, grown, rounds⟩ := transfer.receiver.run_rounds admissible.serves
  have arrives := admissible.arrives
  rw [heard, Session.since_eq grown, sent] at arrives
  obtain ⟨reported, rests⟩ := (hears.rounds rfl rounds).takesIn arrives
  refine ⟨answered, sent, ?_, rests⟩
  have whole : (transfer.frame ++ Checksum.trailer transfer.frame).take Adu.maxLength =
      transfer.frame ++ Checksum.trailer transfer.frame := by
    refine List.take_of_length_le ?_
    rw [List.length_append, Checksum.length_trailer]
    exact admissible.fits
  rw [heard, Session.since_eq grown]
  refine reported.trans ?_
  rw [Hearing.report, whole, Option.isSome_none, if_neg Bool.false_ne_true, admissible.judged]

/-- Some microseconds pass at the receiver. -/
def sampleWait (time : UInt64) : Move (Sim.Bench Sim.Wire) :=
  .meanwhile fun bench => { bench with clock := bench.clock.advance time }

/-- The longest frame that can be sent. -/
def sampleFrame : List UInt8 := 0x11 :: 0x17 :: List.replicate 36 0xA5

/-- The longest frame goes from a slave to a link of another slave, byte after byte. -/
def sample : Transfer (Sim.Bench Sim.Wire) (Sim.Bench Sim.Wire) where
  sender := Session.start { slaveId := 0x11 } { line := {} }
  call := .slaveSend 0 sampleFrame
  frame := sampleFrame
  receiver := Session.start { slaveId := 0x22 }
    { line := { incoming := sampleFrame ++ Checksum.trailer sampleFrame } }
  moves := (List.replicate 40 [.call .service, sampleWait 100]).flatten ++
    [sampleWait 1000, .call .service]

/-- The longest frame arrives, and the receiver takes it for a frame to another slave. -/
theorem longest_frame_arrives : sample.Admissible ∧ sample.Succeeds := by
  have admissible : sample.Admissible :=
    { sends := .reply 0
      long := by decide
      fits := by decide
      named := by decide
      returned := by decide +kernel
      sound := by decide +kernel
      receiverReached := ⟨_, _, [], rfl⟩
      receiverRests := ⟨rfl, rfl⟩
      serves := by simp [sample, sampleWait, Move.Serves]
      arrives := by decide +kernel }
  exact ⟨admissible, every_frame_arrives_unchanged admissible⟩

end Transfer

end BusNode.Link
