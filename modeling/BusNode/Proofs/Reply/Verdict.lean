/-
This file says which replies are accepted as the answer to a request, and why the others are not.
The checks are made one after another, and later ones look at bytes that only exist because earlier
ones passed. Here the same checks are also written so that a byte that is not there, or a difference
below zero, leaves them without a verdict. They reach one for any two runs of bytes.

What can be wrong with a reply is listed with every fault judged by itself. The verdict is the first
fault of the list that is there, and a reply with none of them is a right answer.
-/
import BusNode.Proofs.Link.ReplyLength

namespace BusNode

/-! ### Bytes that have to be there -/

/-- A difference of lengths. It has no value below zero. -/
def difference? (length other : Nat) : Option Nat :=
  if other ≤ length then some (length - other) else none

/-- The bytes before a place. There are none if the place is beyond the end. -/
def before? (place : Nat) (bytes : List UInt8) : Option (List UInt8) :=
  if place ≤ bytes.length then some (bytes.take place) else none

/-- The bytes from a place on. There are none if the place is beyond the end. -/
def from? (place : Nat) (bytes : List UInt8) : Option (List UInt8) :=
  if place ≤ bytes.length then some (bytes.drop place) else none

theorem difference?_eq {length other : Nat} (le : other ≤ length) :
    difference? length other = some (length - other) := if_pos le

theorem before?_eq {place : Nat} {bytes : List UInt8} (inside : place ≤ bytes.length) :
    before? place bytes = some (bytes.take place) := if_pos inside

theorem from?_eq {place : Nat} {bytes : List UInt8} (inside : place ≤ bytes.length) :
    from? place bytes = some (bytes.drop place) := if_pos inside

/-- Whether a checksum holds, if the two parts of the frame can be told apart. -/
def Checksum.holds? (frame : List UInt8) : Option Bool :=
  if frame.length < trailerLength then some false
  else do
    let place ← difference? frame.length trailerLength
    let covered ← before? place frame
    let sealed ← from? place frame
    return sealed == trailer covered

theorem Checksum.holds?_eq (frame : List UInt8) : holds? frame = some (holds frame) := by
  rw [holds?, holds]
  by_cases short : frame.length < trailerLength
  · rw [if_pos short, decide_eq_false (Nat.not_le.mpr short), Bool.false_and]
  · have long : trailerLength ≤ frame.length := Nat.not_lt.mp short
    rw [if_neg short, decide_eq_true long, Bool.true_and, difference?_eq long]
    simp only [bind, Option.bind, before?_eq (Nat.sub_le _ _), from?_eq (Nat.sub_le _ _)]
    rfl

/-- The basic checks, if the first byte of the frame is there when it is asked for. -/
def Adu.check? (frame : List UInt8) : Option (Except FrameFault Unit) :=
  if frame.length < minLength then some (.error .tooShort)
  else do
    let id ← frame[0]?
    if isSlaveId id then
      let holds ← Checksum.holds? frame
      return if holds then .ok () else .error .badChecksum
    else return .error .badSlaveId

theorem Adu.check?_eq (frame : List UInt8) : check? frame = some (check frame) := by
  match frame with
  | [] => rfl
  | id :: rest =>
    rw [check?, check, Checksum.holds?_eq]
    by_cases short : (id :: rest).length < minLength
    · rw [if_pos short, if_pos short]
    · rw [if_neg short, if_neg short]
      cases assigned : isSlaveId id <;> simp [slaveId?, assigned]

namespace Reply

/-- The register count of a request that is long enough to have one, if both of its bytes are
there. -/
def countField? (request : List UInt8) : Option (Option Nat) :=
  if 6 ≤ request.length then do
    let field := (request.drop 4).take 2
    let high ← field[0]?
    let low ← field[1]?
    return some (Word.ofBytes high low).toNat
  else some none

theorem countField?_eq (request : List UInt8) :
    countField? request = some (registerCount? request) := by
  rw [countField?]
  by_cases long : 6 ≤ request.length
  · rw [if_pos long, registerCount?]
    have high : ((request.drop 4).take 2)[0]? = some request[4] := by simp
    have low : ((request.drop 4).take 2)[1]? = some request[5] := by simp
    simp only [high, low, List.getElem?_eq_getElem (show 4 < request.length by omega),
      List.getElem?_eq_getElem (show 5 < request.length by omega)]
    rfl
  · rw [if_neg long, registerCount?_eq_none (Nat.not_le.mp long)]

/-- The length that a request asks for, if its register count can be read where it is needed. -/
def expectedLength? (request : List UInt8) : Option Nat :=
  match request[1]? with
  | none => some 0
  | some code =>
    if code = FunctionCode.writeSingle then some writeLength
    else if code = FunctionCode.readHolding then do
      match ← countField? request with
      | some count => return readOverhead + 2 * count
      | none => return 0
    else some 0

theorem expectedLength?_eq (request : List UInt8) :
    expectedLength? request = some (expectedLength request) := by
  rw [expectedLength?, expectedLength, Adu.functionCode?, countField?_eq]
  cases request[1]? with
  | none => rfl
  | some code =>
    by_cases writes : code = FunctionCode.writeSingle
    · simp only [writes, if_true]
    · by_cases reads : code = FunctionCode.readHolding
      · simp only [if_neg writes, if_pos reads]
        cases registerCount? request <;> rfl
      · simp only [if_neg writes, if_neg reads]

/-- The checks on a reply, if every byte is there that they look at. -/
def check? (request reply : List UInt8) : Option (Except ReplyFault Unit) :=
  let code := request[1]?.getD 0
  if code ≠ FunctionCode.writeSingle ∧ code ≠ FunctionCode.readHolding then
    some (.error (.unverifiable code))
  else do
    let expected ← expectedLength? request
    if reply.length ≠ expected then
      return .error (.wrongLength (lengthByte expected) (lengthByte reply.length))
    else
      match ← Adu.check? reply with
      | .error fault => return .error (.frame fault)
      | .ok () =>
        let slave ← reply[0]?
        let asked ← request[0]?
        if slave ≠ asked then return .error .wrongSlave
        else
          let answered ← reply[1]?
          if answered ≠ code then return .error .wrongFunction
          else if code = FunctionCode.writeSingle then
            return if reply == request then .ok () else .error .wrongPayload
          else
            let count ← reply[2]?
            let carried ← difference? expected readOverhead
            return if count.toNat = carried then .ok () else .error .wrongPayload

/-- The checks find every byte that they look at. -/
theorem check?_eq (request reply : List UInt8) :
    check? request reply = some (check request reply) := by
  match request with
  | [] | [_] => rfl
  | asked :: code :: rest =>
    rw [check?, expectedLength?_eq, check]
    by_cases unruled : code ≠ FunctionCode.writeSingle ∧ code ≠ FunctionCode.readHolding
    · exact (if_pos unruled).trans (congrArg some (if_pos unruled).symm)
    · refine (if_neg unruled).trans (Eq.trans ?_ (congrArg some (if_neg unruled).symm))
      by_cases length : reply.length ≠ expectedLength (asked :: code :: rest)
      · exact (if_pos length).trans (congrArg some (if_pos length).symm)
      · refine (if_neg length).trans (Eq.trans ?_ (congrArg some (if_neg length).symm))
        rw [Adu.check?_eq]
        cases frame : Adu.check reply with
        | error fault => rfl
        | ok _ =>
          -- From here on three bytes of the reply are looked at, and a length is taken off another.
          -- The basic checks have made sure of the bytes, and the length of the reply of the rest.
          obtain ⟨long, -⟩ := Adu.check_eq_ok_iff.mp frame
          match reply with
          | slave :: answered :: count :: tail =>
            have enough : readOverhead ≤ expectedLength (asked :: code :: rest) :=
              Decidable.not_not.mp length ▸ long
            simp only [difference?_eq enough, Adu.slaveId?, Adu.functionCode?, payloadMatches,
              List.getElem?_cons_zero, List.getElem?_cons_succ, Option.some.injEq,
              Option.getD_some, Option.map_some, ne_eq, bind, Option.bind, pure]
            by_cases slaves : slave = asked
            · by_cases functions : answered = code
              · by_cases writes : code = FunctionCode.writeSingle
                · simp only [slaves, functions, writes, not_true, if_false, if_true]
                · simp [slaves, functions, writes]
              · simp only [slaves, functions, not_true, not_false_eq_true, if_false, if_true]
            · simp only [slaves, not_false_eq_true, if_true]

/-! ### What can be wrong -/

/-- Everything that can be wrong with a reply, in the order of the checks, and whether it is. Each
fault is judged as if there were no other. -/
def complaints (request reply : List UInt8) : List (ReplyFault × Bool) :=
  let code := request[1]?.getD 0
  [(.unverifiable code, code != FunctionCode.writeSingle && code != FunctionCode.readHolding),
    (.wrongLength (lengthByte (expectedLength request)) (lengthByte reply.length),
      reply.length != expectedLength request),
    (.frame .tooShort, reply.length < Adu.minLength),
    (.frame .badSlaveId, !reply[0]?.all Adu.isSlaveId),
    (.frame .badChecksum, !Checksum.holds reply),
    (.wrongSlave, reply[0]? != request[0]?),
    (.wrongFunction, reply[1]? != some code),
    (.wrongPayload,
      if code = FunctionCode.writeSingle then reply != request
      else reply[2]?.map UInt8.toNat != (registerCount? request).map (2 * ·))]

/-- The first fault of a list that is there, if any is. -/
def verdict (faults : List (ReplyFault × Bool)) : Except ReplyFault Unit :=
  match faults.find? Prod.snd with
  | some (fault, _) => .error fault
  | none => .ok ()

theorem verdict_cons (fault : ReplyFault) (there : Bool) (rest : List (ReplyFault × Bool)) :
    verdict ((fault, there) :: rest) = if there then .error fault else verdict rest := by
  cases there <;> rfl

theorem verdict_eq_ok_iff {faults : List (ReplyFault × Bool)} :
    verdict faults = .ok () ↔ ∀ fault ∈ faults, fault.2 = false := by
  rw [verdict]
  cases found : faults.find? Prod.snd with
  | none =>
    rw [List.find?_eq_none] at found
    exact ⟨fun _ fault member => Bool.eq_false_iff.mpr (found fault member), fun _ => rfl⟩
  | some first =>
    refine ⟨nofun, fun absent => ?_⟩
    have there := List.find?_some found
    rw [absent first (List.mem_of_find?_eq_some found)] at there
    cases there

theorem verdict_eq_error_iff {faults : List (ReplyFault × Bool)} {fault : ReplyFault} :
    verdict faults = .error fault ↔
      ∃ before after, faults = before ++ (fault, true) :: after ∧
        ∀ earlier ∈ before, earlier.2 = false := by
  rw [verdict]
  constructor
  · intro first
    cases found : faults.find? Prod.snd with
    | none =>
      rw [found] at first
      cases first
    | some complaint =>
      rw [found] at first
      cases first
      obtain ⟨there, before, after, split, absent⟩ := List.find?_eq_some_iff_append.mp found
      refine ⟨before, after, ?_, fun earlier member => ?_⟩
      · rw [split, ← there]
      · exact Bool.not_inj (absent earlier member)
  · rintro ⟨before, after, rfl, absent⟩
    have found : (before ++ (fault, true) :: after).find? Prod.snd = some (fault, true) :=
      List.find?_eq_some_iff_append.mpr ⟨rfl, before, after, rfl, fun earlier member =>
        congrArg not (absent earlier member)⟩
    rw [found]

theorem expectedLength_of_writes {request : List UInt8}
    (writes : request[1]? = some FunctionCode.writeSingle) :
    expectedLength request = writeLength := by
  rw [expectedLength, Adu.functionCode?, writes]
  rfl

theorem expectedLength_of_reads {request : List UInt8}
    (reads : request[1]? = some FunctionCode.readHolding) :
    expectedLength request =
      (registerCount? request).elim 0 fun count => readOverhead + 2 * count := by
  rw [expectedLength, Adu.functionCode?, reads]
  cases registerCount? request <;> rfl

/-- A read that leaves room for the contents of registers in its reply says how many. -/
theorem registerCount?_of_expectedLength {request : List UInt8}
    (reads : request[1]? = some FunctionCode.readHolding)
    (long : readOverhead ≤ expectedLength request) :
    ∃ count, registerCount? request = some count ∧
      expectedLength request = readOverhead + 2 * count := by
  rw [expectedLength_of_reads reads] at long ⊢
  cases counted : registerCount? request with
  | none =>
    rw [counted] at long
    cases long
  | some count => exact ⟨count, rfl, rfl⟩

/-- A request to which there is a rule names its function. -/
theorem function_of_ruled {request : List UInt8}
    (ruled : request[1]?.getD 0 = FunctionCode.writeSingle ∨
      request[1]?.getD 0 = FunctionCode.readHolding) :
    request[1]? = some FunctionCode.writeSingle ∨ request[1]? = some FunctionCode.readHolding := by
  cases function : request[1]? with
  | none =>
    rw [function] at ruled
    exact absurd ruled (by decide)
  | some code =>
    rw [function] at ruled
    exact ruled.imp (congrArg some) (congrArg some)

/-- Where the lengths are right, the contents are those of the request, or as many bytes as the
registers have. -/
theorem payloadMatches_eq {request : List UInt8} (reply : List UInt8)
    (ruled : request[1]? = some FunctionCode.writeSingle ∨
      request[1]? = some FunctionCode.readHolding)
    (long : readOverhead ≤ expectedLength request) :
    payloadMatches request reply =
      if request[1]?.getD 0 = FunctionCode.writeSingle then reply == request
      else reply[2]?.map UInt8.toNat == (registerCount? request).map (2 * ·) := by
  rw [payloadMatches, Adu.functionCode?]
  cases ruled with
  | inl writes => rw [writes, Option.getD_some, if_pos rfl, if_pos rfl]
  | inr reads =>
    obtain ⟨count, counted, length⟩ := registerCount?_of_expectedLength reads long
    rw [reads, Option.getD_some, if_neg (by decide), if_neg (by decide), counted, length,
      Nat.add_sub_cancel_left, Option.map_some]

/-- The basic checks look for three faults, one after the other. -/
theorem check_frame_eq (frame : List UInt8) (sound : Except ReplyFault Unit) :
    (match Adu.check frame with
      | .error fault => .error (.frame fault)
      | .ok () => sound) =
      if frame.length < Adu.minLength then .error (.frame .tooShort)
      else if (!frame[0]?.all Adu.isSlaveId) = true then .error (.frame .badSlaveId)
      else if (!Checksum.holds frame) = true then .error (.frame .badChecksum)
      else sound := by
  rw [Adu.check, Adu.slaveId?]
  by_cases short : frame.length < Adu.minLength
  · rw [if_pos short, if_pos short]
  · rw [if_neg short, if_neg short]
    cases frame[0]?.all Adu.isSlaveId <;> cases Checksum.holds frame <;> rfl

/-- The checks find the first fault that is there. -/
theorem check_eq_verdict (request reply : List UInt8) :
    check request reply = verdict (complaints request reply) := by
  simp only [complaints, verdict_cons, bne_iff_ne, Bool.and_eq_true, decide_eq_true_eq]
  rw [check, Adu.functionCode?]
  -- Check for check the two sides are the same, but for the last one. It takes the contents from
  -- the expected length where the list takes them from the count, and relies on earlier checks.
  refine ite_congr rfl (fun _ => rfl) fun ruled => ite_congr rfl (fun _ => rfl) fun length => ?_
  refine (check_frame_eq reply _).trans ?_
  refine ite_congr rfl (fun _ => rfl) fun long => ite_congr rfl (fun _ => rfl) fun _ =>
    ite_congr rfl (fun _ => rfl) fun _ => ite_congr rfl (fun _ => rfl) fun _ =>
      ite_congr rfl (fun _ => rfl) fun _ => ?_
  have enough : readOverhead ≤ expectedLength request :=
    Decidable.not_not.mp length ▸ Nat.not_lt.mp long
  have matched := payloadMatches_eq reply
    (function_of_ruled (Decidable.or_iff_not_not_and_not.mpr ruled)) enough
  have unmatched : (if request[1]?.getD 0 = FunctionCode.writeSingle then reply != request
      else reply[2]?.map UInt8.toNat != (registerCount? request).map (2 * ·)) =
        !payloadMatches request reply := by
    rw [matched]
    split <;> rfl
  rw [unmatched]
  cases payloadMatches request reply <;> rfl

/-! ### The right answers -/

/-- A frame that a slave sealed. -/
structure SealedBy (id : UInt8) (frame : List UInt8) : Prop where
  slave : frame[0]? = some id
  assigned : 1 ≤ id.toNat ∧ id.toNat ≤ 247
  sealed : Checksum.holds frame = true

/-- The right answers to a request. -/
inductive Answers (request reply : List UInt8) : Prop where
  /-- A write comes back unchanged. -/
  | write {id : UInt8} (function : request[1]? = some 6) (whole : request.length = 8)
    (unchanged : reply = request) (sealed : SealedBy id reply)
  /-- A read is answered by as many bytes as the registers have, and by their number. -/
  | read {id high low : UInt8} (function : request[1]? = some 3) (asked : request[0]? = some id)
    (highByte : request[4]? = some high) (lowByte : request[5]? = some low)
    (whole : reply.length = 5 + 2 * (256 * high.toNat + low.toNat)) (sealed : SealedBy id reply)
    (answered : reply[1]? = some 3)
    (counted : reply[2]?.map UInt8.toNat = some (2 * (256 * high.toNat + low.toNat)))

theorem isSlaveId_iff {id : UInt8} :
    Adu.isSlaveId id = true ↔ 1 ≤ id.toNat ∧ id.toNat ≤ 247 := by
  rw [Adu.isSlaveId, Bool.and_eq_true, decide_eq_true_eq, decide_eq_true_eq,
    UInt8.le_iff_toNat_le, UInt8.le_iff_toNat_le]
  rfl

theorem toNat_ofBytes (high low : UInt8) :
    (Word.ofBytes high low).toNat = 256 * high.toNat + low.toNat := by
  have smallHigh := high.toNat_lt
  have smallLow := low.toNat_lt
  simp [Word.ofBytes]
  omega

/-- The register count of a request is its fifth and sixth byte, the higher one first. -/
theorem registerCount?_eq_some_iff {request : List UInt8} {count : Nat} :
    registerCount? request = some count ↔
      ∃ high low, request[4]? = some high ∧ request[5]? = some low ∧
        count = 256 * high.toNat + low.toNat := by
  rw [registerCount?]
  constructor
  · intro counted
    cases highByte : request[4]? with
    | none =>
      rw [highByte] at counted
      cases counted
    | some high =>
      cases lowByte : request[5]? with
      | none =>
        rw [highByte, lowByte] at counted
        cases counted
      | some low =>
        rw [highByte, lowByte] at counted
        exact ⟨high, low, rfl, rfl, (Option.some.inj counted).symm.trans (toNat_ofBytes high low)⟩
  · rintro ⟨high, low, highByte, lowByte, rfl⟩
    rw [highByte, lowByte]
    exact congrArg some (toNat_ofBytes high low)

theorem SealedBy.all {id : UInt8} {frame : List UInt8} (sealed : SealedBy id frame) :
    frame[0]?.all Adu.isSlaveId = true := by
  rw [sealed.slave]
  exact isSlaveId_iff.mpr sealed.assigned

/-- A right answer is a reply with which nothing is wrong. -/
theorem answers_iff {request reply : List UInt8} :
    Answers request reply ↔ ∀ fault ∈ complaints request reply, fault.2 = false := by
  simp only [complaints, List.forall_mem_cons, bne_eq_false_iff_eq, Bool.and_eq_false_iff,
    decide_eq_false_iff_not, Nat.not_lt, Bool.not_eq_false']
  constructor
  · intro answers
    cases answers with
    | write function whole unchanged sealed =>
      subst unchanged
      have writes : reply[1]? = some FunctionCode.writeSingle := function
      rw [expectedLength_of_writes writes, writes, Option.getD_some, whole]
      exact ⟨.inl rfl, rfl, by decide, sealed.all, sealed.sealed, rfl, rfl,
        (if_pos rfl).trans (bne_self_eq_false _), nofun⟩
    | read function asked highByte lowByte whole sealed answered counted =>
      have reads : request[1]? = some FunctionCode.readHolding := function
      have count := registerCount?_eq_some_iff.mpr ⟨_, _, highByte, lowByte, rfl⟩
      rw [expectedLength_of_reads reads, reads, Option.getD_some, count, asked, counted, whole]
      exact ⟨.inr rfl, rfl, Nat.le_add_right _ _, sealed.all, sealed.sealed, sealed.slave, answered,
        bne_self_eq_false _, nofun⟩
  · rintro ⟨ruled, length, long, assigned, holds, slave, function, payload, -⟩
    have filled : 0 < reply.length := Nat.lt_of_lt_of_le (by decide) long
    have first : reply[0]? = some reply[0] := List.getElem?_eq_getElem filled
    rw [first] at assigned
    have sealed : SealedBy reply[0] reply := ⟨first, isSlaveId_iff.mp assigned, holds⟩
    cases function_of_ruled ruled with
    | inl writes =>
      rw [expectedLength_of_writes writes] at length
      rw [writes, Option.getD_some, if_pos rfl, bne_eq_false_iff_eq] at payload
      exact .write writes (payload ▸ length) payload sealed
    | inr reads =>
      obtain ⟨count, counted, expected⟩ := registerCount?_of_expectedLength reads (length ▸ long)
      rw [reads, Option.getD_some, if_neg (by decide), bne_eq_false_iff_eq, counted] at payload
      rw [reads] at function
      obtain ⟨high, low, highByte, lowByte, rfl⟩ := registerCount?_eq_some_iff.mp counted
      exact .read reads (slave.symm.trans first) highByte lowByte (length.trans expected) sealed
        function payload

/-- The checks on a reply find every byte that they look at, whatever the request and the reply are.
They accept the right answers and nothing else, and for anything else they report the first fault
that is there. -/
theorem accepts_answers_alone (request reply : List UInt8) :
    check? request reply = some (check request reply) ∧
      (check request reply = .ok () ↔ Answers request reply) ∧
      ∀ fault, check request reply = .error fault ↔
        ∃ before after, complaints request reply = before ++ (fault, true) :: after ∧
          ∀ earlier ∈ before, earlier.2 = false := by
  refine ⟨check?_eq request reply, ?_, fun fault => ?_⟩
  · rw [check_eq_verdict, verdict_eq_ok_iff, answers_iff]
  · rw [check_eq_verdict, verdict_eq_error_iff]

end Reply

end BusNode
