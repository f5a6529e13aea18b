/-
This file proves when the check before a request and the wait after it agree on the length of the
reply. The check reads the request as it was given, and the wait reads it with its checksum. Both
see the same length, but for a read that ends where its register count should stand: there the
checksum is taken for the count. Such a read asks for nothing, is let through, and is waited for.
-/
import BusNode.Proofs.Link.Waiting
import BusNode.Sim.Bench
import BusNode.Sim.Wire

namespace BusNode

namespace Reply

/-! ### Lengths with and without the checksum -/

/-- A read that ends after its address, before the register count is whole. -/
def LacksCount (request : List UInt8) : Prop :=
  Adu.functionCode? request = some FunctionCode.readHolding ∧
    (request.length = 4 ∨ request.length = 5)

instance (request : List UInt8) : Decidable (LacksCount request) :=
  inferInstanceAs (Decidable (_ ∧ _))

theorem functionCode?_append {request rest : List UInt8} (long : 2 ≤ request.length) :
    Adu.functionCode? (request ++ rest) = Adu.functionCode? request := by
  rw [Adu.functionCode?, Adu.functionCode?, List.getElem?_append_left long]

theorem registerCount?_append {request rest : List UInt8} (long : 6 ≤ request.length) :
    registerCount? (request ++ rest) = registerCount? request := by
  rw [registerCount?, registerCount?, List.getElem?_append_left (by omega),
    List.getElem?_append_left (by omega)]

theorem registerCount?_eq_none {request : List UInt8} (short : request.length < 6) :
    registerCount? request = none := by
  rw [registerCount?, List.getElem?_eq_none (show request.length ≤ 5 by omega)]
  cases request[4]? <;> rfl

theorem registerCount?_of_long {request : List UInt8} (long : 6 ≤ request.length) :
    ∃ count, registerCount? request = some count := by
  rw [registerCount?, List.getElem?_eq_getElem (show 4 < request.length by omega),
    List.getElem?_eq_getElem (show 5 < request.length by omega)]
  exact ⟨_, rfl⟩

/-- The checksum of a single byte does not look like the function of a write. -/
theorem trailer_singleton_ne_writeSingle (byte : UInt8) :
    Adu.functionCode? ([byte] ++ Checksum.trailer [byte]) ≠ some FunctionCode.writeSingle := by
  have all : ∀ index : Fin 256, Adu.functionCode?
      ([UInt8.ofFin index] ++ Checksum.trailer [UInt8.ofFin index]) ≠
        some FunctionCode.writeSingle := by
    decide +kernel
  exact all byte.toFin

/-- The reply that a request expects depends on its function, and for a read on its count. -/
theorem expectedLength_congr {request other : List UInt8}
    (function : Adu.functionCode? request = Adu.functionCode? other)
    (count : Adu.functionCode? other = some FunctionCode.readHolding →
      registerCount? request = registerCount? other) :
    expectedLength request = expectedLength other := by
  rw [expectedLength, expectedLength, function]
  cases code : Adu.functionCode? other with
  | none => rfl
  | some code' =>
    by_cases reads : code' = FunctionCode.readHolding
    · rw [count (by rw [code, reads])]
    · simp only [reads, if_false]

theorem expectedLength_eq_zero {request : List UInt8}
    (unwritten : Adu.functionCode? request ≠ some FunctionCode.writeSingle)
    (uncounted : registerCount? request = none) : expectedLength request = 0 := by
  rw [expectedLength, uncounted]
  cases function : Adu.functionCode? request with
  | none => rfl
  | some code =>
    have other : code ≠ FunctionCode.writeSingle := fun same =>
      unwritten (by rw [function, same])
    simp [other]

/-- A checksum does not change the reply that is expected, but where it is taken for a count. -/
theorem expectedLength_append_trailer {request : List UInt8} (counts : ¬ LacksCount request) :
    expectedLength (request ++ Checksum.trailer request) = expectedLength request := by
  have length : (request ++ Checksum.trailer request).length = request.length + 2 :=
    List.length_append
  match request with
  | [] => rfl
  | [byte] =>
    exact expectedLength_eq_zero (trailer_singleton_ne_writeSingle byte)
      (registerCount?_eq_none (by rw [length, List.length_singleton]; decide))
  | slave :: code :: rest =>
    refine expectedLength_congr (functionCode?_append (by simp)) fun reads => ?_
    have placed : (slave :: code :: rest).length ≠ 4 ∧ (slave :: code :: rest).length ≠ 5 :=
      not_or.mp fun missing => counts ⟨reads, missing⟩
    by_cases long : 6 ≤ (slave :: code :: rest).length
    · exact registerCount?_append long
    · rw [registerCount?_eq_none (by omega), registerCount?_eq_none (by omega)]

/-- Where the checksum is taken for a count, a reply is expected that nothing asks for. -/
theorem expectedLength_of_lacksCount {request : List UInt8} (lacks : LacksCount request) :
    expectedLength request = 0 ∧
      0 < expectedLength (request ++ Checksum.trailer request) := by
  obtain ⟨function, length⟩ := lacks
  refine ⟨expectedLength_eq_zero (by rw [function]; decide) (registerCount?_eq_none (by omega)), ?_⟩
  have long : 6 ≤ (request ++ Checksum.trailer request).length := by
    rw [List.length_append, Checksum.length_trailer, Checksum.trailerLength]
    omega
  obtain ⟨count, counted⟩ := registerCount?_of_long long
  rw [expectedLength, functionCode?_append (by omega), function, counted]
  show 0 < readOverhead + 2 * count
  exact Nat.add_pos_left (by decide) _

theorem expectedLength_le_of_checkFits {request : List UInt8} (fits : checkFits request = .ok ()) :
    expectedLength request ≤ Adu.maxLength := by
  by_cases long : Adu.maxLength < expectedLength request
  · simp [checkFits, long] at fits
  · exact Nat.not_lt.mp long

end Reply

namespace Link

/-! ### The wait after a request -/

/-- What it means that a link, which has just sent a request, awaits what the check before it was
about. -/
structure AwaitsAsChecked (request : List UInt8) (link : Link) : Prop where
  outbound : link.outbound.bytes = request ++ Checksum.trailer request
  fits : request.length + Checksum.trailerLength ≤ Adu.maxLength
  /-- The check and the wait agree exactly if the request has room for what it says. -/
  agree : Reply.expectedLength link.outbound.bytes = Reply.expectedLength request ↔
    ¬ Reply.LacksCount request
  /-- Then the link waits exactly if the request as it was given asks for a reply. -/
  busy : ¬ Reply.LacksCount request → link.isBusy = decide (0 < Reply.expectedLength request)
  receivable : ¬ Reply.LacksCount request →
    Reply.expectedLength link.outbound.bytes ≤ Adu.maxLength
  /-- Otherwise it waits, although the request asks for none. -/
  misled : Reply.LacksCount request → Reply.expectedLength request = 0 ∧ link.isBusy = true

theorem Armed.isBusy {link next : Link} {effects : List Effect} (armed : Armed link effects next)
    (free : link.isBusy = false) :
    next.isBusy = decide (0 < Reply.expectedLength link.outbound.bytes) ∧
      next.outbound = link.outbound := by
  cases armed with
  | awaited now awaited => exact ⟨(decide_eq_true awaited).symm, rfl⟩
  | unawaited unawaited => exact ⟨by rw [free, unawaited]; rfl, rfl⟩

theorem Requested.awaits {request : List UInt8} {link next : Link} {effects : List Effect}
    (requested : Requested request link .sent effects next) : AwaitsAsChecked request next := by
  cases requested with
  | unsent _ _ unsent => exact absurd rfl unsent
  | @sent middle _ _ _ checked delivery armed =>
    obtain ⟨fits, loaded⟩ := delivery.outbound
    obtain ⟨waits, kept⟩ := armed.isBusy delivery.free
    rw [loaded] at waits
    rw [← kept] at loaded
    refine ⟨loaded, fits, ?_, ?_, ?_, ?_⟩
    · rw [loaded]
      refine ⟨fun agree lacks => ?_, Reply.expectedLength_append_trailer⟩
      obtain ⟨unasked, asked⟩ := Reply.expectedLength_of_lacksCount lacks
      omega
    · intro counts
      rw [waits, Reply.expectedLength_append_trailer counts]
    · intro counts
      rw [loaded, Reply.expectedLength_append_trailer counts]
      exact Reply.expectedLength_le_of_checkFits checked
    · intro lacks
      obtain ⟨unasked, asked⟩ := Reply.expectedLength_of_lacksCount lacks
      exact ⟨unasked, waits.trans (decide_eq_true asked)⟩

/-- Whatever its clock and its line do, a link that has sent a request awaits the reply that was
checked to fit, but for a read that lacks its count. -/
theorem masterSend_awaits_as_checked {World : Type} [Clock World] [Line World] [Journal World]
    [Listener World] {patience : Nat} {request : List UInt8} {link : Link} {world : World}
    (sent : (link.masterSend patience request world).1.1 = .sent) :
    AwaitsAsChecked request (link.masterSend patience request world).1.2 := by
  obtain ⟨effects, -, same, -, requested⟩ :=
    masterSend_traces patience request link (⟨world, []⟩ : Recorded World)
  rw [same] at sent ⊢
  rw [sent] at requested
  exact requested.awaits

/-- A read of three registers is awaited as it was checked. -/
theorem masterSend_three_registers :
    (({ config := {} } : Link).masterSend 0 [0x11, 0x03, 0x00, 0x6B, 0x00, 0x03]
        ({ line := {} } : Sim.Bench Sim.Wire)).1.1 = .sent ∧
      AwaitsAsChecked [0x11, 0x03, 0x00, 0x6B, 0x00, 0x03]
        (({ config := {} } : Link).masterSend 0 [0x11, 0x03, 0x00, 0x6B, 0x00, 0x03]
          ({ line := {} } : Sim.Bench Sim.Wire)).1.2 :=
  ⟨rfl, masterSend_awaits_as_checked rfl⟩

/-- A read that lacks its count asks for no reply, but one is awaited. -/
theorem masterSend_awaits_checksum :
    (({ config := {} } : Link).masterSend 0 [0x11, 0x03, 0x00, 0x6B]
        ({ line := {} } : Sim.Bench Sim.Wire)).1.1 = .sent ∧
      Reply.expectedLength [0x11, 0x03, 0x00, 0x6B] = 0 ∧
      (({ config := {} } : Link).masterSend 0 [0x11, 0x03, 0x00, 0x6B]
        ({ line := {} } : Sim.Bench Sim.Wire)).1.2.isBusy = true ∧
      Adu.maxLength < Reply.expectedLength (({ config := {} } : Link).masterSend 0
        [0x11, 0x03, 0x00, 0x6B] ({ line := {} } : Sim.Bench Sim.Wire)).1.2.outbound.bytes :=
  by decide +kernel

end Link

end BusNode
