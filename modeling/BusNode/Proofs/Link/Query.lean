/-
This file says what a master can ask of a slave by name, and how the slave answers: to a write with
the first six bytes of the request, and to a read with the contents of the registers. Both frames,
once they have their checksums, pass every check of the link that takes them in.
-/
import BusNode.Proofs.Link.Sending

namespace BusNode

/-- A request to read goes into a frame, if it asks for some registers and for no more than one
reply can carry. -/
theorem Request.readHolding_eq_ok {count : UInt16} (id : UInt8) (address : UInt16)
    (some : 0 < count) (few : count ≤ maxRegisters) :
    ∃ frame, readHolding id address count = .ok frame ∧
      frame.bytes = [id, FunctionCode.readHolding] ++ Word.bigEndian address ++
        Word.bigEndian count := by
  have allowed : ¬ (count = 0 ∨ maxRegisters < count) := by
    rintro (none | many)
    · exact absurd (none ▸ some) (by decide)
    · exact UInt16.not_le.mpr many few
  exact ⟨_, if_neg allowed, rfl⟩

/-- What makes a reply to a read or a write the answer to its request. -/
theorem Reply.check_eq_ok {request reply : List UInt8} {code : UInt8}
    (function : Adu.functionCode? request = some code)
    (known : code = FunctionCode.writeSingle ∨ code = FunctionCode.readHolding)
    (length : reply.length = expectedLength request) (sound : Adu.check reply = .ok ())
    (slave : Adu.slaveId? reply = Adu.slaveId? request)
    (same : Adu.functionCode? reply = some code) (payload : payloadMatches request reply = true) :
    check request reply = .ok () := by
  have ruled : ¬ (code ≠ FunctionCode.writeSingle ∧ code ≠ FunctionCode.readHolding) := by
    rintro ⟨unwritten, unread⟩
    exact known.elim unwritten unread
  unfold check
  simp only [function, Option.getD_some]
  rw [if_neg ruled, if_neg (not_not.mpr length), sound]
  simp only
  rw [if_neg (not_not.mpr slave), if_neg (not_not.mpr same), if_pos payload]

namespace Link

/-! ### Queries -/

/-- A read of registers, and what they contain. -/
structure Reading where
  address : UInt16
  count : UInt16
  data : List UInt8
  some : 0 < count
  few : count ≤ Request.maxRegisters
  whole : data.length = 2 * count.toNat

theorem Reading.count_le (reading : Reading) : reading.count.toNat ≤ 17 :=
  UInt16.le_iff_toNat_le.mp reading.few

/-- What a master asks, and for a read also what there is to answer. -/
inductive Query where
  | write (address value : UInt16)
  | read (reading : Reading)

namespace Query

/-- The call by which a master asks a slave. -/
def call (patience : Nat) (id : UInt8) : Query → Call
  | write address value => .writeRegister patience id address value
  | read reading => .readRegisters patience id reading.address reading.count

/-- The request, its checksum left out. -/
def request (id : UInt8) : Query → List UInt8
  | write address value =>
    [id, FunctionCode.writeSingle] ++ Word.bigEndian address ++ Word.bigEndian value
  | read reading =>
    [id, FunctionCode.readHolding] ++ Word.bigEndian reading.address ++
      Word.bigEndian reading.count

/-- What a slave sends in answer to a frame, the checksum left out. -/
def answer (id : UInt8) (frame : List UInt8) : Query → List UInt8
  | write _ _ => frame.take 6
  | read reading =>
    [id, FunctionCode.readHolding, UInt8.ofNat (2 * reading.count.toNat)] ++ reading.data

/-- The frame in which a query goes out. -/
def requestFrame (id : UInt8) (query : Query) : List UInt8 :=
  query.request id ++ Checksum.trailer (query.request id)

/-- The frame in which it is answered. -/
def answerFrame (id : UInt8) (query : Query) : List UInt8 :=
  query.answer id (query.requestFrame id) ++
    Checksum.trailer (query.answer id (query.requestFrame id))

/-- How many bytes that frame has. -/
def replyLength : Query → Nat
  | write _ _ => 8
  | read reading => 5 + 2 * reading.count.toNat

variable {id : UInt8}

/-! ### The request -/

theorem named_call (query : Query) (patience : Nat) (id : UInt8) :
    ∃ frame, (query.call patience id).named? = some (patience, .ok frame) ∧
      frame.bytes = query.request id := by
  cases query with
  | write address value =>
    obtain ⟨frame, built, bytes⟩ := Request.writeSingle_eq_ok id address value
    exact ⟨frame, by rw [call, Call.named?, built], bytes⟩
  | read reading =>
    obtain ⟨frame, built, bytes⟩ :=
      Request.readHolding_eq_ok id reading.address reading.some reading.few
    exact ⟨frame, by rw [call, Call.named?, built], bytes⟩

theorem length_request (query : Query) (id : UInt8) : (query.request id).length = 6 := by
  cases query <;> rfl

theorem length_requestFrame (query : Query) (id : UInt8) :
    (query.requestFrame id).length = 8 := by
  rw [requestFrame, List.length_append, length_request, Checksum.length_trailer]
  rfl

theorem slaveId?_request (query : Query) (id : UInt8) :
    Adu.slaveId? (query.request id) = some id := by
  cases query <;> rfl

/-- The reply that a request asks for, whatever comes after its six bytes. -/
theorem expectedLength_request (query : Query) (id : UInt8) (rest : List UInt8) :
    Reply.expectedLength (query.request id ++ rest) = query.replyLength := by
  cases query with
  | write address value => rfl
  | read reading =>
    have counted : Reply.registerCount? (request id (read reading) ++ rest) =
        some reading.count.toNat := by
      show some (Word.ofBytes _ _).toNat = _
      rw [Word.ofBytes_highByte_lowByte]
    have function : Adu.functionCode? (request id (read reading) ++ rest) =
        some FunctionCode.readHolding := rfl
    rw [Reply.expectedLength, function, counted]
    rfl

theorem replyLength_pos (query : Query) : 0 < query.replyLength := by
  cases query with
  | write _ _ => exact Nat.zero_lt_succ 7
  | read reading => exact Nat.add_pos_left (by decide) _

theorem replyLength_le (query : Query) : query.replyLength ≤ Adu.maxLength := by
  cases query with
  | write _ _ => exact Nat.le_of_ble_eq_true rfl
  | read reading =>
    have few := reading.count_le
    rw [replyLength, Adu.maxLength]
    omega

theorem checkFits_request (query : Query) (id : UInt8) :
    Reply.checkFits (query.request id) = .ok () := by
  have expected := query.expectedLength_request id []
  rw [List.append_nil] at expected
  rw [Reply.checkFits, expected, if_neg (Nat.not_lt.mpr query.replyLength_le), if_neg]
  rintro ⟨reads, blank⟩
  cases query with
  | write _ _ => cases reads
  | read reading =>
    have some : 0 < reading.count.toNat := UInt16.lt_iff_toNat_lt.mp reading.some
    rw [replyLength, Reply.readOverhead] at blank
    omega

/-- The slave that a request names takes it for one. -/
theorem judgeRequest_requestFrame (query : Query) (valid : Adu.isSlaveId id = true) :
    judgeRequest id (query.requestFrame id) = .requestForUs := by
  have length := query.length_request id
  rw [requestFrame, judgeRequest_append_trailer (by omega) (by rw [length]; decide)
    (query.slaveId?_request id) valid, if_pos rfl]

/-! ### The answer -/

/-- A slave that answers a write sends the request back. -/
theorem answer_write (id : UInt8) (address value : UInt16) :
    (write address value).answer id ((write address value).requestFrame id) =
      (write address value).request id := rfl

theorem length_answerFrame (query : Query) (id : UInt8) :
    (query.answerFrame id).length = query.replyLength := by
  rw [answerFrame, List.length_append, Checksum.length_trailer]
  cases query with
  | write address value =>
    rw [answer_write, length_request]
    rfl
  | read reading =>
    simp only [answer, List.length_append, reading.whole, List.length_cons, List.length_nil,
      Checksum.trailerLength, replyLength]
    omega

theorem slaveId?_answer (query : Query) (id : UInt8) :
    Adu.slaveId? (query.answer id (query.requestFrame id)) = some id := by
  cases query <;> rfl

theorem sound_answerFrame (query : Query) (valid : Adu.isSlaveId id = true) :
    Adu.check (query.answerFrame id) = .ok () := by
  refine Adu.check_append_trailer ?_ (query.slaveId?_answer id) valid
  cases query with
  | write address value => exact Nat.le_of_ble_eq_true rfl
  | read reading =>
    rw [answer, List.length_append]
    exact Nat.le_add_right 3 _

theorem payloadMatches_read (reading : Reading) (id : UInt8) :
    Reply.payloadMatches ((read reading).requestFrame id) ((read reading).answerFrame id) =
      true := by
  have few := reading.count_le
  have reads : Adu.functionCode? ((read reading).requestFrame id) ≠
      some FunctionCode.writeSingle := by
    show some FunctionCode.readHolding ≠ some FunctionCode.writeSingle
    decide
  have length : (UInt8.ofNat (2 * reading.count.toNat)).toNat = 2 * reading.count.toNat := by
    rw [UInt8.toNat_ofNat']
    omega
  rw [Reply.payloadMatches, if_neg reads, requestFrame, expectedLength_request]
  show (some (UInt8.ofNat (2 * reading.count.toNat)).toNat ==
    some (5 + 2 * reading.count.toNat - Reply.readOverhead)) = true
  rw [length, Reply.readOverhead, Nat.add_sub_cancel_left]
  exact beq_self_eq_true _

/-- The answer to a query is the reply to its request. -/
theorem check_answerFrame (query : Query) (valid : Adu.isSlaveId id = true) :
    Reply.check (query.requestFrame id) (query.answerFrame id) = .ok () := by
  have length : (query.answerFrame id).length =
      Reply.expectedLength (query.requestFrame id) := by
    rw [length_answerFrame, requestFrame, expectedLength_request]
  have sound := query.sound_answerFrame valid
  cases query with
  | write address value =>
    exact Reply.check_eq_ok rfl (Or.inl rfl) length sound rfl rfl (beq_self_eq_true _)
  | read reading =>
    exact Reply.check_eq_ok rfl (Or.inr rfl) length sound rfl rfl (payloadMatches_read reading id)

/-- A master that asked accepts it. -/
theorem judgeReply_answerFrame (query : Query) (valid : Adu.isSlaveId id = true) :
    judgeReply (query.requestFrame id) (query.answerFrame id) = .replyAccepted := by
  have short : ¬ Adu.maxLength < (query.answerFrame id).length := by
    rw [length_answerFrame]
    exact Nat.not_lt.mpr query.replyLength_le
  rw [judgeReply, if_neg short, query.check_answerFrame valid]

end Query

end Link

end BusNode
