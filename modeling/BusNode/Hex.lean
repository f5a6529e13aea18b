/-
This file writes bytes as hexadecimal text and reads them back. Writing gives two upper-case digits
a byte and one space between bytes. Reading ignores the blanks of ASCII wherever they stand, takes
digits of either case, and works through the text a pair at a time, so the bytes before the first
fault are known even when the text as a whole is refused.
-/

namespace BusNode.Hex

/-! ### Digits -/

/-- The digit for a value below sixteen. -/
def digit (value : Nat) : Char :=
  if value < 10 then Char.ofNat (48 + value) else Char.ofNat (55 + value)

/-- The value of a digit of either case. Only the digits of ASCII have one. -/
def digitValue? (symbol : Char) : Option Nat :=
  if '0' ≤ symbol ∧ symbol ≤ '9' then some (symbol.toNat - 48)
  else if 'A' ≤ symbol ∧ symbol ≤ 'F' then some (symbol.toNat - 55)
  else if 'a' ≤ symbol ∧ symbol ≤ 'f' then some (symbol.toNat - 87)
  else none

/-- The blanks that reading ignores: space, tab, line feed, form feed and carriage return. -/
def isBlank (symbol : Char) : Bool :=
  symbol = ' ' || symbol = '\t' || symbol = '\n' || symbol = '\x0c' || symbol = '\r'

/-- Each digit that is written reads back as its value. -/
theorem digitValue?_digit {value : Nat} (small : value < 16) :
    digitValue? (digit value) = some value := by
  rcases value with _ | _ | _ | _ | _ | _ | _ | _ | _ | _ | _ | _ | _ | _ | _ | _ | value
  all_goals first | rfl | omega

/-! ### Writing -/

/-- The two digits of a byte, the high half first. -/
def pair (byte : UInt8) : List Char := [digit (byte.toNat / 16), digit (byte.toNat % 16)]

/-- The two digits of a byte as text. -/
def ofByte (byte : UInt8) : String := String.ofList (pair byte)

/-- The two digits of a byte as text, with letters in lower case. -/
def ofByteLower (byte : UInt8) : String := String.ofList ((pair byte).map Char.toLower)

/-- The bytes of a packet as text, a space between bytes. -/
def packet (bytes : List UInt8) : String := " ".intercalate (bytes.map ofByte)

/-! ### Reading -/

/-- What can be wrong with hexadecimal text. -/
inductive Fault where
  /-- A digit stands without a partner at the end. -/
  | oddDigits
  /-- A pair holds a character that is no digit. -/
  | badPair (high low : Char)
  deriving DecidableEq, Repr

/-- The byte that a pair of characters stands for. -/
def byte? (high low : Char) : Option UInt8 :=
  match digitValue? high, digitValue? low with
  | some upper, some lower => some (UInt8.ofNat (16 * upper + lower))
  | _, _ => none

/-- Reads pairs up to the first fault: the bytes before it, and the fault if there is one. -/
def readPairs : List Char → List UInt8 × Option Fault
  | [] => ([], none)
  | [_] => ([], some .oddDigits)
  | high :: low :: rest =>
    match byte? high low with
    | none => ([], some (.badPair high low))
    | some byte =>
      let (bytes, fault) := readPairs rest
      (byte :: bytes, fault)

/-- Reads a text: the bytes before its first fault, and that fault if there is one. -/
def read (text : String) : List UInt8 × Option Fault :=
  readPairs (text.toList.filter fun symbol => !isBlank symbol)

/-- The pair written for a byte reads back as that byte. -/
theorem byte?_pair (byte : UInt8) :
    byte? (digit (byte.toNat / 16)) (digit (byte.toNat % 16)) = some byte := by
  have small := byte.toNat_lt
  rw [byte?, digitValue?_digit (by omega), digitValue?_digit (by omega)]
  have whole : 16 * (byte.toNat / 16) + byte.toNat % 16 = byte.toNat := by omega
  simp [whole]

end BusNode.Hex
