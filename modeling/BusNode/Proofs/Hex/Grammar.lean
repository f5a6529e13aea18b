/-
This file says which texts are hexadecimal and what they stand for. The blanks of a text are left
out first. The digits that remain spell bytes if they are, one after another, the digits of the
halves of these bytes, the high half first. Which character is the digit of which value is read off
two rows of digits here, and not computed.

Reading a text is then what the grammar says. Whatever the text is, the bytes that are read are
spelled by its first digits, and what stops the reading is the very next pair, or half of a pair.
-/
import BusNode.Hex
import Mathlib.Algebra.Group.Nat.Even
import Mathlib.Data.List.Forall2

namespace BusNode.Hex

/-! ### Digits -/

def lowerDigits : List Char :=
  ['0', '1', '2', '3', '4', '5', '6', '7', '8', '9', 'a', 'b', 'c', 'd', 'e', 'f']

def upperDigits : List Char :=
  ['0', '1', '2', '3', '4', '5', '6', '7', '8', '9', 'A', 'B', 'C', 'D', 'E', 'F']

/-- Whether a character is the digit of a value, in either case. -/
def IsDigitOf (symbol : Char) (value : Nat) : Prop :=
  lowerDigits[value]? = some symbol ∨ upperDigits[value]? = some symbol

instance (symbol : Char) (value : Nat) : Decidable (IsDigitOf symbol value) :=
  inferInstanceAs (Decidable (_ ∨ _))

/-- Whether a character is a digit. -/
def IsDigit (symbol : Char) : Prop := ∃ value, IsDigitOf symbol value

/-- A character is a digit if it is in one of the two rows. -/
theorem isDigit_iff_mem {symbol : Char} :
    IsDigit symbol ↔ symbol ∈ lowerDigits ∨ symbol ∈ upperDigits := by
  simp only [IsDigit, IsDigitOf, exists_or, List.mem_iff_getElem?]

theorem IsDigitOf.lt {symbol : Char} {value : Nat} (digit : IsDigitOf symbol value) :
    value < 16 := by
  obtain lower | upper := digit
  · exact (List.getElem?_eq_some_iff.mp lower).1
  · exact (List.getElem?_eq_some_iff.mp upper).1

theorem digitValue?_of_row {row : List Char} {symbol : Char} {value : Nat}
    (row_reads : ∀ place : Fin row.length, digitValue? row[place] = some place.val)
    (found : row[value]? = some symbol) : digitValue? symbol = some value := by
  obtain ⟨inside, rfl⟩ := List.getElem?_eq_some_iff.mp found
  exact row_reads ⟨value, inside⟩

/-- Only characters of ASCII have values as digits. -/
theorem toNat_lt_of_digitValue? {symbol : Char} {value : Nat}
    (read : digitValue? symbol = some value) : symbol.toNat < 128 := by
  refine Nat.lt_of_not_le fun beyond => ?_
  have outside {least most : Char} (ascii : most.toNat < 128) :
      ¬ (least ≤ symbol ∧ symbol ≤ most) := fun range =>
    absurd (Nat.lt_of_le_of_lt range.2 ascii) (Nat.not_lt.mpr beyond)
  rw [digitValue?, if_neg (outside (by decide)), if_neg (outside (by decide)),
    if_neg (outside (by decide))] at read
  cases read

/-- The characters that have values are the digits of the two rows. -/
theorem digitValue?_eq_some_iff {symbol : Char} {value : Nat} :
    digitValue? symbol = some value ↔ IsDigitOf symbol value := by
  constructor
  · intro read
    have ascii : ∀ code : Fin 128, (digitValue? (Char.ofNat code.val)).all
        (fun value => decide (IsDigitOf (Char.ofNat code.val) value)) = true := by
      decide +kernel
    have listed := ascii ⟨symbol.toNat, toNat_lt_of_digitValue? read⟩
    rw [Char.ofNat_toNat, read] at listed
    exact of_decide_eq_true listed
  · rintro (lower | upper)
    · exact digitValue?_of_row (by decide) lower
    · exact digitValue?_of_row (by decide) upper

/-! ### Pairs -/

/-- The values of the two digits of a byte. -/
def halves (byte : UInt8) : List Nat := [byte.toNat / 16, byte.toNat % 16]

/-- Bytes are known from their halves. -/
theorem flatMap_halves_injective :
    Function.Injective fun bytes : List UInt8 => bytes.flatMap halves := by
  intro bytes other same
  induction bytes generalizing other with
  | nil =>
    match other with
    | [] => rfl
  | cons byte rest inductionHypothesis =>
    match other with
    | otherByte :: otherRest =>
      obtain ⟨first, later⟩ := List.append_inj same rfl
      obtain ⟨high, low⟩ : byte.toNat / 16 = otherByte.toNat / 16 ∧
          byte.toNat % 16 = otherByte.toNat % 16 := by simpa [halves] using first
      rw [UInt8.toNat_inj.mp (show byte.toNat = otherByte.toNat by omega),
        inductionHypothesis later]

/-- A pair stands for the byte whose halves are the values of its two digits. -/
theorem byte?_eq_some_iff {high low : Char} {byte : UInt8} :
    byte? high low = some byte ↔
      IsDigitOf high (byte.toNat / 16) ∧ IsDigitOf low (byte.toNat % 16) := by
  rw [← digitValue?_eq_some_iff, ← digitValue?_eq_some_iff, byte?]
  constructor
  · intro read
    split at read
    · rename_i upper lower first second
      have small := (digitValue?_eq_some_iff.mp first).lt
      have few := (digitValue?_eq_some_iff.mp second).lt
      cases read
      rw [UInt8.toNat_ofNat_of_lt' (by show _ < 256; omega), first, second]
      exact ⟨congrArg some (by omega), congrArg some (by omega)⟩
    · cases read
  · rintro ⟨first, second⟩
    rw [first, second]
    have whole : 16 * (byte.toNat / 16) + byte.toNat % 16 = byte.toNat := by omega
    exact congrArg some (by rw [whole, UInt8.ofNat_toNat])

/-- A pair stands for nothing exactly if one of the two characters is no digit. -/
theorem byte?_eq_none_iff {high low : Char} :
    byte? high low = none ↔ ¬ (IsDigit high ∧ IsDigit low) := by
  simp only [IsDigit, ← digitValue?_eq_some_iff, byte?]
  cases digitValue? high <;> cases digitValue? low <;> simp

/-! ### Texts -/

/-- The characters of a text that are no blanks. -/
def symbols (text : String) : List Char := text.toList.filter fun symbol => !isBlank symbol

/-- Whether digits are those of the halves of bytes, one after another. -/
def Spells (digits : List Char) (bytes : List UInt8) : Prop :=
  List.Forall₂ IsDigitOf digits (bytes.flatMap halves)

/-- Why the reading of digits ends. -/
inductive Stops : List Char → Option Fault → Prop
  /-- There are no digits left. -/
  | done : Stops [] none
  | oddDigits (symbol : Char) : Stops [symbol] (some .oddDigits)
  | badPair {high low : Char} (bad : ¬ (IsDigit high ∧ IsDigit low)) (rest : List Char) :
    Stops (high :: low :: rest) (some (.badPair high low))

namespace Spells

variable {digits : List Char} {bytes : List UInt8}

theorem nil : Spells [] [] := List.Forall₂.nil

theorem cons {high low : Char} {byte : UInt8} (pair : byte? high low = some byte)
    (spelled : Spells digits bytes) : Spells (high :: low :: digits) (byte :: bytes) := by
  obtain ⟨upper, lower⟩ := byte?_eq_some_iff.mp pair
  exact List.Forall₂.cons upper (List.Forall₂.cons lower spelled)

theorem length_eq (spelled : Spells digits bytes) : digits.length = 2 * bytes.length := by
  rw [List.Forall₂.length_eq spelled, List.length_flatMap]
  simp [halves, Nat.mul_comm]

theorem isDigit (spelled : Spells digits bytes) {symbol : Char} (member : symbol ∈ digits) :
    IsDigit symbol := by
  unfold Spells at spelled
  generalize bytes.flatMap halves = values at spelled
  induction spelled with
  | nil => cases member
  | cons digit _ inductionHypothesis =>
    obtain rfl | later := List.mem_cons.mp member
    · exact ⟨_, digit⟩
    · exact inductionHypothesis later

/-- Digits that spell any bytes start with a pair. -/
theorem starts {byte : UInt8} (spelled : Spells digits (byte :: bytes)) :
    ∃ high low rest, digits = high :: low :: rest ∧ IsDigit high ∧ IsDigit low := by
  obtain _ | ⟨upper, later⟩ := spelled
  obtain _ | ⟨lower, _⟩ := later
  exact ⟨_, _, _, rfl, ⟨_, upper⟩, _, lower⟩

/-- Digits that spell bytes in two parts are in two parts themselves. -/
theorem split {front back : List UInt8} (spelled : Spells digits (front ++ back)) :
    ∃ first last, digits = first ++ last ∧ Spells first front ∧ Spells last back := by
  rw [Spells, List.flatMap_append] at spelled
  exact ⟨_, _, (List.take_append_drop _ _).symm, List.forall₂_take_append _ _ _ spelled,
    List.forall₂_drop_append _ _ _ spelled⟩

/-- The same digits spell no other bytes. -/
theorem unique {other : List UInt8} (spelled : Spells digits bytes)
    (spelledToo : Spells digits other) : bytes = other := by
  have values : Relator.RightUnique IsDigitOf := fun symbol value another read readToo => by
    rw [← digitValue?_eq_some_iff] at read readToo
    exact Option.some.inj (read.symm.trans readToo)
  exact flatMap_halves_injective (values.forall₂ spelled spelledToo)

end Spells

/-- The bytes that are read are spelled by the digits before what stops the reading. -/
theorem readPairs_spells (digits : List Char) :
    ∃ spelled rest, digits = spelled ++ rest ∧ Spells spelled (readPairs digits).1 ∧
      Stops rest (readPairs digits).2 := by
  fun_induction readPairs digits with
  | case1 => exact ⟨[], [], rfl, .nil, .done⟩
  | case2 symbol => exact ⟨[], [symbol], rfl, .nil, .oddDigits symbol⟩
  | case3 high low rest nothing =>
    exact ⟨[], high :: low :: rest, rfl, .nil, .badPair (byte?_eq_none_iff.mp nothing) rest⟩
  | case4 high low rest byte pair bytes fault read inductionHypothesis =>
    obtain ⟨spelled, left, same, spells, stops⟩ := inductionHypothesis
    rw [read] at spells stops
    exact ⟨high :: low :: spelled, left, by rw [same]; rfl, .cons pair spells, stops⟩

/-! ### Written text -/

/-- No digit is a blank. -/
theorem isBlank_digit {value : Nat} (small : value < 16) : isBlank (digit value) = false := by
  have all : ∀ value : Fin 16, isBlank (digit value.val) = false := by decide
  exact all ⟨value, small⟩

/-- Of a packet in writing the digits of its bytes are left when the blanks are left out. -/
theorem symbols_packet (bytes : List UInt8) : symbols (packet bytes) = bytes.flatMap pair := by
  have kept (byte : UInt8) : (pair byte).filter (fun symbol => !isBlank symbol) = pair byte := by
    have small := byte.toNat_lt
    have high : isBlank (digit (byte.toNat / 16)) = false := isBlank_digit (by omega)
    have low : isBlank (digit (byte.toNat % 16)) = false := isBlank_digit (by omega)
    simp [pair, high, low]
  have written : (packet bytes).toList = [' '].intercalate (bytes.map pair) := by
    rw [packet, String.toList_intercalate, List.map_map]
    exact congrArg _ (List.map_congr_left fun byte _ => String.toList_ofList)
  rw [symbols, written]
  clear written
  induction bytes with
  | nil => rfl
  | cons byte rest inductionHypothesis =>
    match rest with
    | [] => simp [kept]
    | next :: rest =>
      rw [List.map_cons, List.map_cons, List.intercalate_cons_cons, ← List.map_cons,
        List.filter_append, List.filter_append, kept, inductionHypothesis, List.flatMap_cons]
      simp [isBlank]

/-- A packet in writing spells its bytes. -/
theorem spells_packet (bytes : List UInt8) : Spells (symbols (packet bytes)) bytes := by
  rw [symbols_packet]
  induction bytes with
  | nil => exact .nil
  | cons byte rest inductionHypothesis => exact .cons (byte?_pair byte) inductionHypothesis

end BusNode.Hex
