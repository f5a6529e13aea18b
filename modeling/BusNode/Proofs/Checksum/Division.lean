/-
This file reads the checksum as a division that takes in one bit after the other, in the order in
which the bits travel: the bytes as they come, and of each byte the least significant bit first. A
byte is mixed into the register at once and the register shifted eight times, but the bits that wait
in the register do not meet those that leave it, so eight bits taken one by one lead to the same
register.

A step of the division loses nothing: the polynomial has its top bit set, so the bit that left shows
in the top bit of the register. Hence the register tells apart any two runs of bits of one length,
as long as it has room for the whole of them. Above all it tells the right checksum from any other,
so the last two bytes of a frame are the checksum of the rest exactly if the division of the whole
frame leaves nothing.
-/
import BusNode.Checksum
import Mathlib.Algebra.Group.Nat.Defs
import Mathlib.Data.Nat.Bits

namespace BusNode.Checksum

/-! ### One step -/

/-- A step moves every bit down by one place, and takes the polynomial off if the bit that leaves
is set. -/
theorem getLsbD_step (register : UInt16) (place : Nat) :
    (step register).toBitVec.getLsbD place =
      (register.toBitVec.getLsbD (place + 1) ^^
        (register.toBitVec.getLsbD 0 && (0xA001#16).getLsbD place)) := by
  have low : register &&& 1 = 1 ↔ register.toBitVec.getLsbD 0 = true := by
    rw [← UInt16.toBitVec_inj, UInt16.toBitVec_and]
    show register.toBitVec &&& 1#16 = 1#16 ↔ _
    rw [BitVec.and_one_eq_setWidth_ofBool_getLsbD]
    cases register.toBitVec.getLsbD 0 <;> decide
  have down : (register >>> 1).toBitVec.getLsbD place = register.toBitVec.getLsbD (place + 1) := by
    rw [UInt16.toBitVec_shiftRight, Nat.add_comm]
    exact BitVec.getLsbD_ushiftRight _ _ _
  unfold step
  cases leaves : register.toBitVec.getLsbD 0 with
  | true =>
    rw [if_pos (low.mpr leaves), UInt16.toBitVec_xor, BitVec.getLsbD_xor, down, Bool.true_and]
    rfl
  | false =>
    have even : ¬ register &&& 1 = 1 := by
      rw [low, leaves]
      exact Bool.false_ne_true
    rw [if_neg even, down, Bool.false_and, Bool.xor_false]

/-- The bit that left a register can be read off the next one, so no step loses anything. -/
theorem step_injective : Function.Injective step := by
  intro register other same
  have bits (place : Nat) : (step register).toBitVec.getLsbD place =
      (step other).toBitVec.getLsbD place := by rw [same]
  simp only [getLsbD_step] at bits
  have lowest : register.toBitVec.getLsbD 0 = other.toBitVec.getLsbD 0 := by
    have top := bits 15
    rw [BitVec.getLsbD_of_ge register.toBitVec _ (by decide),
      BitVec.getLsbD_of_ge other.toBitVec _ (by decide)] at top
    have set : (0xA001#16).getLsbD 15 = true := by decide
    rwa [set, Bool.and_true, Bool.and_true, Bool.false_xor, Bool.false_xor] at top
  apply UInt16.toBitVec_inj.mp
  apply BitVec.eq_of_getLsbD_eq
  intro place _
  cases place with
  | zero => exact lowest
  | succ place =>
    have next := bits place
    rwa [lowest, Bool.xor_left_inj] at next

theorem repeat_step_injective (count : Nat) : Function.Injective (Nat.repeat step count) := by
  induction count with
  | zero => exact fun _ _ same => same
  | succ count inductionHypothesis =>
    exact fun _ _ same => inductionHypothesis (step_injective same)

theorem repeat_step_zero (count : Nat) : Nat.repeat step count 0 = 0 := by
  induction count with
  | zero => rfl
  | succ count inductionHypothesis =>
    show step (Nat.repeat step count 0) = 0
    rw [inductionHypothesis]
    rfl

/-! ### Bit by bit -/

/-- Takes one more bit into the register. -/
def absorbBit (register : UInt16) (bit : Bool) : UInt16 := step (register ^^^ bit.toUInt16)

/-- The number that bits stand for, the least significant first. -/
def number : List Bool → Nat
  | [] => 0
  | bit :: rest => Nat.bit bit (number rest)

theorem number_lt (bits : List Bool) : number bits < 2 ^ bits.length := by
  induction bits with
  | nil => exact Nat.one_pos
  | cons bit rest inductionHypothesis => exact Nat.bit_lt_two_pow_succ_iff.mpr inductionHypothesis

theorem number_append (front back : List Bool) :
    number (front ++ back) = number front + 2 ^ front.length * number back := by
  induction front with
  | nil => simp [number]
  | cons bit rest inductionHypothesis =>
    rw [List.cons_append, number, number, inductionHypothesis, Nat.bit_val, Nat.bit_val,
      List.length_cons, Nat.pow_succ, Nat.mul_add, Nat.mul_comm (2 ^ rest.length) 2, Nat.mul_assoc]
    omega

/-- Runs of bits of one length stand for different numbers. -/
theorem number_injective {bits other : List Bool} (length : bits.length = other.length)
    (same : number bits = number other) : bits = other := by
  induction bits generalizing other with
  | nil => exact (List.length_eq_zero_iff.mp length.symm).symm
  | cons bit rest inductionHypothesis =>
    match other with
    | otherBit :: otherRest =>
      rw [number, number] at same
      have first : bit = otherBit := by
        rw [← Nat.testBit_bit_zero bit (number rest), same, Nat.testBit_bit_zero]
      have later : number rest = number otherRest := by
        rw [first, Nat.bit_val, Nat.bit_val] at same
        omega
      rw [first, inductionHypothesis (Nat.succ.inj length) later]

/-- A bit may be taken in alone, while the bits behind it wait in the register one place lower. -/
theorem step_xor_bit (register : UInt16) (bit : Bool) {behind : Nat} (room : behind < 2 ^ 15) :
    step (register ^^^ UInt16.ofNat (Nat.bit bit behind)) =
      absorbBit register bit ^^^ UInt16.ofNat behind := by
  apply UInt16.toBitVec_inj.mp
  apply BitVec.eq_of_getLsbD_eq
  intro place bound
  have bits (value place : Nat) : (UInt16.ofNat value).toBitVec.getLsbD place =
      (decide (place < 16) && value.testBit place) := BitVec.getLsbD_ofNat _ _ _
  have alone (place : Nat) : bit.toUInt16.toBitVec.getLsbD (place + 1) = false := by
    cases bit <;> simp
  have lowest : bit.toUInt16.toBitVec.getLsbD 0 = bit := by
    cases bit <;> rfl
  -- In the topmost place nothing waits, for the bits behind leave room for one more.
  have waiting : (decide (place + 1 < 16) && behind.testBit place) = behind.testBit place := by
    rw [Bool.and_eq_right_iff_imp]
    intro set
    have below : 2 ^ place < 2 ^ 15 := Nat.lt_of_le_of_lt (Nat.ge_two_pow_of_testBit set) room
    exact decide_eq_true (Nat.succ_lt_succ ((Nat.pow_lt_pow_iff_right Nat.one_lt_two).mp below))
  rw [absorbBit, UInt16.toBitVec_xor, BitVec.getLsbD_xor, getLsbD_step, getLsbD_step]
  simp only [UInt16.toBitVec_xor, BitVec.getLsbD_xor, bits, alone, lowest,
    Nat.testBit_bit_zero, Nat.testBit_bit_succ, waiting, bound, decide_true, Bool.true_and,
    Bool.xor_false]
  exact Bool.xor_right_comm _ _ _

theorem repeat_step_succ (count : Nat) (register : UInt16) :
    Nat.repeat step count (step register) = Nat.repeat step (count + 1) register := by
  induction count with
  | zero => rfl
  | succ count inductionHypothesis => exact congrArg step inductionHypothesis

/-- As many bits as the register has room for may be taken in one by one, or all at once. -/
theorem foldl_absorbBit (register : UInt16) {bits : List Bool} (short : bits.length ≤ 16) :
    bits.foldl absorbBit register =
      Nat.repeat step bits.length (register ^^^ UInt16.ofNat (number bits)) := by
  induction bits generalizing register with
  | nil => simp [number, Nat.repeat]
  | cons bit rest inductionHypothesis =>
    have shorter : rest.length ≤ 15 := Nat.le_of_succ_le_succ short
    have room : number rest < 2 ^ 15 :=
      Nat.lt_of_lt_of_le (number_lt rest) (Nat.pow_le_pow_right Nat.two_pos shorter)
    rw [List.foldl_cons, inductionHypothesis _ (by omega), number, List.length_cons,
      ← repeat_step_succ, step_xor_bit register bit room]

/-- From one register, different runs of bits lead to different ones if they have one length and the
register has room for them. -/
theorem eq_of_foldl_absorbBit {register : UInt16} {bits other : List Bool}
    (length : bits.length = other.length) (short : bits.length ≤ 16)
    (same : bits.foldl absorbBit register = other.foldl absorbBit register) : bits = other := by
  have fits {run : List Bool} (short : run.length ≤ 16) : number run < 2 ^ 16 :=
    Nat.lt_of_lt_of_le (number_lt run) (Nat.pow_le_pow_right Nat.two_pos short)
  rw [foldl_absorbBit register short, foldl_absorbBit register (length ▸ short), length] at same
  have words := (UInt16.xor_right_inj register).mp (repeat_step_injective _ same)
  have numbers := congrArg UInt16.toNat words
  rw [UInt16.toNat_ofNat_of_lt' (fits short), UInt16.toNat_ofNat_of_lt' (fits (length ▸ short))]
    at numbers
  exact number_injective length numbers

/-- The same bits lead different registers to different ones. -/
theorem foldl_absorbBit_injective (bits : List Bool) :
    Function.Injective fun register => bits.foldl absorbBit register := by
  induction bits with
  | nil => exact fun _ _ same => same
  | cons bit rest inductionHypothesis =>
    intro register other same
    exact (UInt16.xor_left_inj _).mp (step_injective (inductionHypothesis same))

/-! ### The bits of a frame -/

/-- The bits of a byte in the order in which they travel, the least significant first. -/
def byteBits (byte : UInt8) : List Bool := (List.range 8).map byte.toNat.testBit

/-- The bits of a run of bytes in the order in which they travel. -/
def wireBits (bytes : List UInt8) : List Bool := bytes.flatMap byteBits

@[simp] theorem length_byteBits (byte : UInt8) : (byteBits byte).length = 8 := rfl

@[simp] theorem wireBits_append (front back : List UInt8) :
    wireBits (front ++ back) = wireBits front ++ wireBits back := List.flatMap_append

theorem length_wireBits (bytes : List UInt8) : (wireBits bytes).length = 8 * bytes.length := by
  induction bytes with
  | nil => rfl
  | cons byte rest inductionHypothesis =>
    rw [wireBits, List.flatMap_cons, List.length_append, ← wireBits, inductionHypothesis,
      length_byteBits, List.length_cons]
    omega

theorem number_byteBits (byte : UInt8) : number (byteBits byte) = byte.toNat := by
  have all : ∀ index : Fin 256, number (byteBits (UInt8.ofFin index)) = index.val := by
    decide +kernel
  exact all byte.toFin

theorem byteBits_injective : Function.Injective byteBits := by
  intro byte other same
  apply UInt8.toNat_inj.mp
  rw [← number_byteBits, same, number_byteBits]

/-- Bytes can be read off their bits. -/
theorem wireBits_injective : Function.Injective wireBits := by
  intro bytes other same
  have length : bytes.length = other.length := by
    have length := congrArg List.length same
    rw [length_wireBits, length_wireBits] at length
    omega
  induction bytes generalizing other with
  | nil => exact (List.length_eq_zero_iff.mp length.symm).symm
  | cons byte rest inductionHypothesis =>
    match other with
    | otherByte :: otherRest =>
      obtain ⟨first, later⟩ := List.append_inj same rfl
      rw [byteBits_injective first, inductionHypothesis later (Nat.succ.inj length)]

/-- To take in a byte is to take in its bits. -/
theorem absorb_eq (register : UInt16) (byte : UInt8) :
    absorb register byte = (byteBits byte).foldl absorbBit register := by
  rw [foldl_absorbBit register (by simp), number_byteBits, UInt16.ofNat_uInt8ToNat]
  rfl

/-- The checksum of bytes is what their division leaves, taken bit by bit. -/
theorem compute_eq (bytes : List UInt8) :
    compute bytes = (wireBits bytes).foldl absorbBit 0xFFFF := by
  rw [compute, wireBits, List.foldl_flatMap]
  congr 1
  funext register byte
  exact absorb_eq register byte

/-- What further bytes do to the register, bit by bit. -/
theorem compute_append_eq (front back : List UInt8) :
    compute (front ++ back) = (wireBits back).foldl absorbBit (compute front) := by
  rw [compute_eq, wireBits_append, List.foldl_append, ← compute_eq]

/-! ### Whole frames -/

/-- The bits of a trailer are those of the word in it. -/
theorem number_littleEndian (word : UInt16) :
    number (wireBits (Word.littleEndian word)) = word.toNat := by
  have low : (Word.lowByte word).toNat = word.toNat % 256 := by simp [Word.lowByte]
  have high : (Word.highByte word).toNat = word.toNat / 256 := by
    have bound := word.toNat_lt
    simp [Word.highByte]
    omega
  show number (byteBits (Word.lowByte word) ++ (byteBits (Word.highByte word) ++ [])) = _
  rw [List.append_nil, number_append, number_byteBits, number_byteBits, low, high, length_byteBits]
  omega

/-- The division of bytes with their checksum leaves nothing. -/
theorem compute_append_trailer (bytes : List UInt8) : compute (bytes ++ trailer bytes) = 0 := by
  have short : (wireBits (trailer bytes)).length ≤ 16 := by
    rw [length_wireBits, length_trailer]
    exact Nat.le_refl 16
  rw [compute_append_eq, foldl_absorbBit _ short, trailer, number_littleEndian,
    UInt16.ofNat_toNat, UInt16.xor_self, repeat_step_zero]

/-- No two trailers are the same to the division. -/
theorem eq_of_compute_append {bytes trailing other : List UInt8}
    (length : trailing.length = trailerLength) (lengthOther : other.length = trailerLength)
    (same : compute (bytes ++ trailing) = compute (bytes ++ other)) : trailing = other := by
  rw [compute_append_eq, compute_append_eq] at same
  refine wireBits_injective (eq_of_foldl_absorbBit ?_ ?_ same)
  · rw [length_wireBits, length_wireBits, length, lengthOther]
  · rw [length_wireBits, length]
    exact Nat.le_refl 16

/-- The last two bytes of a frame are the checksum of the others exactly if the division of the
whole frame leaves nothing. -/
theorem holds_iff_compute_eq_zero {frame : List UInt8} (long : trailerLength ≤ frame.length) :
    holds frame = true ↔ compute frame = 0 := by
  have split : body frame ++ frame.drop (frame.length - trailerLength) = frame :=
    List.take_append_drop _ _
  have length : (frame.drop (frame.length - trailerLength)).length = trailerLength := by
    rw [List.length_drop]
    omega
  rw [holds, decide_eq_true long, Bool.true_and, beq_iff_eq]
  constructor
  · intro sealed
    rw [← split, sealed]
    exact compute_append_trailer (body frame)
  · intro nothing
    have same : compute (body frame ++ frame.drop (frame.length - trailerLength)) =
        compute (body frame ++ trailer (body frame)) := by
      rw [split, nothing, compute_append_trailer]
    exact eq_of_compute_append length rfl same

end BusNode.Checksum
