/-
This file proves that a dialogue succeeds. A master asks a slave by name, the slave answers, and in
between both links take their steps in any order. If each frame comes in whole and is followed by
silence, and the reply is not overdue, then the slave is told of the request, the master of the
reply, neither of anything else, and both are at rest again.
-/
import BusNode.Proofs.Link.Pair
import BusNode.Proofs.Link.Query

namespace BusNode.Link

/-! ### Dialogues -/

/-- What is said and done from the state of two links on. -/
structure Dialogue (MasterWorld SlaveWorld : Type) where
  before : Pair MasterWorld SlaveWorld
  /-- The slave that is asked. -/
  id : UInt8
  query : Query
  /-- How many steps the master is ready to wait before it asks. -/
  masterPatience : Nat := 0
  /-- How many steps the slave is ready to wait before it answers. -/
  slavePatience : Nat := 0
  /-- What happens after the master has asked and before the slave answers. -/
  middle : List (Act MasterWorld SlaveWorld)
  /-- What happens after the slave has answered. -/
  late : List (Act MasterWorld SlaveWorld)

namespace Dialogue

variable {MasterWorld SlaveWorld : Type} [Clock MasterWorld] [Line MasterWorld]
  [Journal MasterWorld] [Listener MasterWorld] [Clock SlaveWorld] [Line SlaveWorld]
  [Journal SlaveWorld] [Listener SlaveWorld]

/-- The links when the master has asked. -/
def asked (dialogue : Dialogue MasterWorld SlaveWorld) : Pair MasterWorld SlaveWorld :=
  dialogue.before.act (.master (dialogue.query.call dialogue.masterPatience dialogue.id))

/-- The bytes that the line of the master took. -/
def sent (dialogue : Dialogue MasterWorld SlaveWorld) : List UInt8 :=
  (emitted (dialogue.before.master.since dialogue.asked.master)).flatten

/-- The links when the slave is about to answer. -/
def heard (dialogue : Dialogue MasterWorld SlaveWorld) : Pair MasterWorld SlaveWorld :=
  dialogue.asked.run dialogue.middle

/-- The links when the slave has answered what it was asked. -/
def answered (dialogue : Dialogue MasterWorld SlaveWorld) : Pair MasterWorld SlaveWorld :=
  dialogue.heard.act
    (.slave (.slaveSend dialogue.slavePatience (dialogue.query.answer dialogue.id dialogue.sent)))

/-- The bytes that the line of the slave took. -/
def replied (dialogue : Dialogue MasterWorld SlaveWorld) : List UInt8 :=
  (emitted (dialogue.heard.slave.since dialogue.answered.slave)).flatten

/-- The links at the end. -/
def finished (dialogue : Dialogue MasterWorld SlaveWorld) : Pair MasterWorld SlaveWorld :=
  dialogue.answered.run dialogue.late

/-- What a dialogue needs to succeed. -/
structure Admissible (dialogue : Dialogue MasterWorld SlaveWorld) : Prop where
  masterReached : dialogue.before.master.Reached
  slaveReached : dialogue.before.slave.Reached
  masterRests : dialogue.before.master.link.Rests
  slaveRests : dialogue.before.slave.link.Rests
  valid : Adu.isSlaveId dialogue.id = true
  addressed : dialogue.before.slave.link.config.slaveId = dialogue.id
  /-- But for the two calls the links only take steps, in any order. -/
  serves : ∀ act ∈ dialogue.middle ++ dialogue.late, act.Serves
  /-- The lines do not fail in the two calls. -/
  masterSound : ∀ effect ∈ dialogue.before.master.since dialogue.asked.master, effect.fails = false
  slaveSound : ∀ effect ∈ dialogue.heard.slave.since dialogue.answered.slave, effect.fails = false
  /-- The slave reads what the master sent, with no gap beyond its limit, and finds the silence
  after it. -/
  requestArrives : takesIn dialogue.before.slave.link.config.interByteTimeout dialogue.sent
    (dialogue.asked.slave.since dialogue.heard.slave) = true
  /-- Then it reads nothing more. -/
  quiet : received (dialogue.answered.slave.since dialogue.finished.slave) = []
  /-- The master reads what the slave sent, in the same way. -/
  replyArrives : takesIn dialogue.before.master.link.config.interByteTimeout dialogue.replied
    (dialogue.asked.master.since dialogue.finished.master) = true
  /-- No step of the master finds that the time for a reply has passed. -/
  timely : ∀ since ∈ dialogue.asked.master.link.waitingSince,
    ∀ effect ∈ dialogue.asked.master.since dialogue.finished.master,
      effect.overdue since dialogue.before.master.link.config.replyTimeout = false

/-- What it means that a dialogue succeeded. -/
structure Succeeds (dialogue : Dialogue MasterWorld SlaveWorld) : Prop where
  asked : dialogue.asked.master.answer? = some .done
  answered : dialogue.answered.slave.answer? = some .done
  sent : dialogue.sent = dialogue.query.requestFrame dialogue.id
  replied : dialogue.replied = dialogue.query.answerFrame dialogue.id
  /-- All that the slave is told, from beginning to end. -/
  slaveReports : reports (dialogue.before.slave.since dialogue.finished.slave) =
    [{ outcome := .requestForUs, frame := dialogue.sent }]
  /-- All that the master is told, from beginning to end. -/
  masterReports : reports (dialogue.before.master.since dialogue.finished.master) =
    [{ outcome := .replyAccepted, frame := dialogue.replied }]
  masterRests : dialogue.finished.master.link.Rests
  slaveRests : dialogue.finished.slave.link.Rests

/-! ### The side of the master -/

variable {dialogue : Dialogue MasterWorld SlaveWorld}

/-- The request of a master that is at rest goes out, and then the master awaits the reply. -/
theorem Admissible.asks (admissible : dialogue.Admissible) :
    ∃ effects, dialogue.asked.master.history = dialogue.before.master.history ++ effects ∧
      dialogue.asked.master.answer? = some .done ∧
        Emits (dialogue.query.request dialogue.id) dialogue.before.master.link effects
          dialogue.asked.master.link ∧ dialogue.asked.master.link.isBusy = true := by
  obtain ⟨frame, named, bytes⟩ := dialogue.query.named_call dialogue.masterPatience dialogue.id
  obtain ⟨answer, effects, grown, answered, performed, -⟩ :=
    dialogue.before.master.move_grows (dialogue.query.call dialogue.masterPatience dialogue.id)
  change dialogue.asked.master.history = _ at grown
  have sound := admissible.masterSound
  rw [Session.since_eq grown] at sound
  have length := dialogue.query.length_request dialogue.id
  obtain ⟨rfl, emits, busy⟩ := performed.emits_request named
    (by rw [bytes]; exact dialogue.query.checkFits_request dialogue.id)
    admissible.masterRests.free
    (by rw [FrameBuffer.length, bytes, length]; decide)
    (by rw [bytes, Query.expectedLength_request]; exact dialogue.query.replyLength_pos) sound
  rw [bytes] at emits
  exact ⟨effects, grown, answered, emits, busy⟩

theorem Admissible.sent (admissible : dialogue.Admissible) :
    dialogue.sent = dialogue.query.requestFrame dialogue.id := by
  obtain ⟨effects, grown, -, emits, -⟩ := admissible.asks
  rw [Dialogue.sent, Session.since_eq grown, emits.emitted, List.flatten_singleton,
    Query.requestFrame]

/-- What a master hears after it has asked, up to the end. -/
theorem Admissible.awaits (admissible : dialogue.Admissible) :
    ∃ effects, dialogue.finished.master.history = dialogue.asked.master.history ++ effects ∧
      Rounds dialogue.asked.master.link effects dialogue.finished.master.link := by
  obtain ⟨middle, late⟩ := List.forall_mem_append.mp admissible.serves
  obtain ⟨⟨effects, grown, rounds⟩, -⟩ := dialogue.asked.run_rounds middle
  obtain ⟨⟨later, grownLater, roundsLater⟩, -⟩ := dialogue.answered.run_rounds late
  -- The answer of the slave does not touch the master.
  change dialogue.finished.master.history =
    (dialogue.asked.run dialogue.middle).master.history ++ later at grownLater
  exact ⟨effects ++ later, by rw [grownLater, grown, List.append_assoc],
    rounds.trans roundsLater⟩

/-- The master is told of the reply, and is at rest again. -/
theorem Admissible.accepts (admissible : dialogue.Admissible)
    (replied : dialogue.replied = dialogue.query.answerFrame dialogue.id) :
    reports (dialogue.before.master.since dialogue.finished.master) =
        [{ outcome := .replyAccepted, frame := dialogue.replied }] ∧
      dialogue.finished.master.link.Rests := by
  obtain ⟨effects, grown, -, emits, busy⟩ := admissible.asks
  obtain ⟨later, grownLater, rounds⟩ := admissible.awaits
  obtain ⟨limit, segments, shown, cuts⟩ := admissible.masterReached.cuts
  have blank : dialogue.asked.master.link.inbound.bytes = [] := by
    rw [emits.inbound]
    exact admissible.masterRests.blank
  have hears := Hears.begin (cuts.emits emits) blank
  have timely := admissible.timely
  rw [Session.since_eq grownLater, ← emits.config] at timely
  have arrives := admissible.replyArrives
  rw [Session.since_eq grownLater, ← emits.config] at arrives
  have heard := hears.rounds (Hearing.overdue_eq_false timely) rounds
  obtain ⟨reported, rests⟩ := heard.takesIn arrives
  refine ⟨?_, rests⟩
  have whole : dialogue.replied.take Adu.maxLength = dialogue.replied := by
    refine List.take_of_length_le ?_
    rw [replied, Query.length_answerFrame]
    exact dialogue.query.replyLength_le
  have judged : judgeReply dialogue.asked.master.link.outbound.bytes dialogue.replied =
      .replyAccepted := by
    rw [emits.outbound, replied]
    exact dialogue.query.judgeReply_answerFrame admissible.valid
  have grownBoth : dialogue.finished.master.history =
      dialogue.before.master.history ++ (effects ++ later) := by
    rw [grownLater, grown, List.append_assoc]
  rw [Session.since_eq grownBoth, reports_append, emits.unreported, List.nil_append]
  refine reported.trans ?_
  rw [Hearing.report, whole, show dialogue.asked.master.link.waitingSince.isSome = true from busy,
    if_pos rfl, judged]

/-! ### The side of the slave -/

/-- The slave is told of the request, and is at rest again. -/
theorem Admissible.hears (admissible : dialogue.Admissible) :
    ∃ effects, dialogue.heard.slave.history = dialogue.before.slave.history ++ effects ∧
      Hears ⟨dialogue.before.slave.link.config, dialogue.before.slave.link.outbound.bytes, none⟩
        dialogue.heard.slave.link effects ∧
      reports effects = [{ outcome := .requestForUs, frame := dialogue.sent }] ∧
        dialogue.heard.slave.link.Rests := by
  obtain ⟨limit, segments, shown, cuts⟩ := admissible.slaveReached.cuts
  have hears := Hears.begin cuts admissible.slaveRests.blank
  rw [admissible.slaveRests.waitingSince] at hears
  obtain ⟨-, effects, grown, rounds⟩ :=
    dialogue.asked.run_rounds (List.forall_mem_append.mp admissible.serves).1
  change dialogue.heard.slave.history = dialogue.before.slave.history ++ effects at grown
  have arrives := admissible.requestArrives
  change takesIn _ _ (dialogue.before.slave.since dialogue.heard.slave) = true at arrives
  rw [Session.since_eq grown] at arrives
  have heard := hears.rounds rfl rounds
  obtain ⟨reported, rests⟩ := heard.takesIn arrives
  refine ⟨effects, grown, heard, reported.trans ?_, rests⟩
  have whole : dialogue.sent.take Adu.maxLength = dialogue.sent := by
    refine List.take_of_length_le ?_
    rw [admissible.sent, Query.length_requestFrame]
    decide
  have judged := dialogue.query.judgeRequest_requestFrame admissible.valid
  rw [← admissible.sent, ← admissible.addressed] at judged
  rw [Hearing.report, whole, Option.isSome_none, if_neg Bool.false_ne_true, judged]

/-- The answer of a slave that is at rest goes out. -/
theorem Admissible.answers (admissible : dialogue.Admissible) :
    ∃ effects, dialogue.answered.slave.history = dialogue.heard.slave.history ++ effects ∧
      dialogue.answered.slave.answer? = some .done ∧
        Emits (dialogue.query.answer dialogue.id dialogue.sent) dialogue.heard.slave.link effects
          dialogue.answered.slave.link ∧ dialogue.answered.slave.link.isBusy = false := by
  obtain ⟨-, -, -, -, rests⟩ := admissible.hears
  obtain ⟨answer, effects, grown, answered, performed, -⟩ := dialogue.heard.slave.move_grows
    (.slaveSend dialogue.slavePatience (dialogue.query.answer dialogue.id dialogue.sent))
  change dialogue.answered.slave.history = _ at grown
  have sound := admissible.slaveSound
  rw [Session.since_eq grown] at sound
  have fits : (dialogue.query.answer dialogue.id dialogue.sent).length + Checksum.trailerLength ≤
      Adu.maxLength := by
    have length := dialogue.query.length_answerFrame dialogue.id
    rw [Query.answerFrame, List.length_append, Checksum.length_trailer, ← admissible.sent] at length
    rw [length]
    exact dialogue.query.replyLength_le
  obtain ⟨rfl, emits, free⟩ := performed.emits_reply rests.free fits sound
  exact ⟨effects, grown, answered, emits, free⟩

theorem Admissible.replied (admissible : dialogue.Admissible) :
    dialogue.replied = dialogue.query.answerFrame dialogue.id := by
  obtain ⟨effects, grown, -, emits, -⟩ := admissible.answers
  rw [Dialogue.replied, Session.since_eq grown, emits.emitted, List.flatten_singleton,
    Query.answerFrame, admissible.sent]

/-- After its answer the slave is told of nothing, and stays at rest. -/
theorem Admissible.ends (admissible : dialogue.Admissible) :
    ∃ effects, dialogue.finished.slave.history = dialogue.answered.slave.history ++ effects ∧
      reports effects = [] ∧ dialogue.finished.slave.link.Rests := by
  obtain ⟨_, -, heard, -, rests⟩ := admissible.hears
  obtain ⟨_, -, -, emits, free⟩ := admissible.answers
  have blank : dialogue.answered.slave.link.inbound.bytes = [] := by
    rw [emits.inbound]
    exact rests.blank
  have hears := Hears.begin (heard.cuts.emits emits) blank
  obtain ⟨-, effects, grown, rounds⟩ :=
    dialogue.answered.run_rounds (List.forall_mem_append.mp admissible.serves).2
  change dialogue.finished.slave.history = _ at grown
  have unread := admissible.quiet
  rw [Session.since_eq grown] at unread
  have waits : dialogue.answered.slave.link.waitingSince = none := by
    simpa [isBusy] using free
  rw [waits] at hears
  obtain ⟨unreported, resting⟩ := (hears.rounds rfl rounds).unread rfl unread
  exact ⟨effects, grown, unreported, resting⟩

/-! ### Every dialogue succeeds -/

/-- Whatever a master asks by name and whatever a slave has to answer, in whatever order the two
take their steps: if both frames come in whole and in time, the slave is told of the request and
the master of the reply. -/
theorem succeeds_when_admissible (admissible : dialogue.Admissible) : dialogue.Succeeds := by
  obtain ⟨-, -, asked, -, -⟩ := admissible.asks
  obtain ⟨heard, grownHeard, -, told, -⟩ := admissible.hears
  obtain ⟨said, grownSaid, answered, emits, -⟩ := admissible.answers
  obtain ⟨rest, grownRest, untold, slaveRests⟩ := admissible.ends
  obtain ⟨masterReports, masterRests⟩ := admissible.accepts admissible.replied
  have grown : dialogue.finished.slave.history =
      dialogue.before.slave.history ++ (heard ++ (said ++ rest)) := by
    rw [grownRest, grownSaid, grownHeard, List.append_assoc, List.append_assoc]
  refine ⟨asked, answered, admissible.sent, admissible.replied, ?_, masterReports, masterRests,
    slaveRests⟩
  rw [Session.since_eq grown, reports_append, reports_append, told, emits.unreported, untold]
  rfl

/-- Some microseconds pass for both nodes. -/
def sampleWait (time : UInt64) : Act (Sim.Bench Sim.Wire) (Sim.Bench Sim.Wire) :=
  .meanwhile fun (master, slave) =>
    ({ master with clock := master.clock.advance time },
      { slave with clock := slave.clock.advance time })

/-- Both nodes take steps, as many as it takes to read a number of bytes, and then one of them takes
a step after a silence. -/
def sampleSteps (bytes : Nat) (last : Act (Sim.Bench Sim.Wire) (Sim.Bench Sim.Wire)) :
    List (Act (Sim.Bench Sim.Wire) (Sim.Bench Sim.Wire)) :=
  (List.replicate bytes [.slave .service, .master .service, sampleWait 100]).flatten ++
    [sampleWait 1000, last]

/-- A read of two registers, whose bytes go from line to line in one piece. -/
def sample : Dialogue (Sim.Bench Sim.Wire) (Sim.Bench Sim.Wire) where
  before :=
    { master := Session.start {} { line := {} }
      slave := Session.start { slaveId := 0x22 } { line := {} } }
  id := 0x22
  query := .read
    { address := 0x0000, count := 2, data := [0x00, 0x2A, 0x01, 0x00]
      some := by decide
      few := by decide
      whole := by decide }
  middle :=
    .meanwhile (fun (master, slave) =>
      (master, { slave with line := slave.line.inject master.line.sent.flatten })) ::
      sampleSteps 8 (.slave .service)
  late :=
    .meanwhile (fun (master, slave) =>
      ({ master with line := master.line.inject slave.line.sent.flatten }, slave)) ::
      sampleSteps 9 (.master .service)

/-- A read of two registers succeeds, while both nodes take their steps in turn. -/
theorem read_of_two_succeeds : sample.Admissible ∧ sample.Succeeds := by
  have serves : ∀ act ∈ sample.middle ++ sample.late, act.Serves := by
    simp [sample, sampleSteps, sampleWait, Act.Serves]
  have begun : sample.asked.master.link.waitingSince = some 0 := by decide +kernel
  have early : ∀ effect ∈ sample.asked.master.since sample.finished.master,
      effect.overdue 0 sample.before.master.link.config.replyTimeout = false := by
    decide +kernel
  have admissible : sample.Admissible :=
    { masterReached := ⟨_, _, [], rfl⟩
      slaveReached := ⟨_, _, [], rfl⟩
      masterRests := ⟨rfl, rfl⟩
      slaveRests := ⟨rfl, rfl⟩
      valid := by decide
      addressed := rfl
      serves
      masterSound := by decide +kernel
      slaveSound := by decide +kernel
      requestArrives := by decide +kernel
      quiet := by decide +kernel
      replyArrives := by decide +kernel
      timely := by
        rintro since waits
        obtain rfl : since = 0 := Option.some.inj (waits.symm.trans begun)
        exact early }
  exact ⟨admissible, succeeds_when_admissible admissible⟩

end Dialogue

end BusNode.Link
