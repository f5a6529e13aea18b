/-
This file splits sixteen-bit words into bytes and puts them together again. A register address or
value travels high byte first and the checksum low byte first, so both orders are here.
-/

namespace BusNode.Word

/-- The more significant byte of a word. -/
def highByte (word : UInt16) : UInt8 := (word / 256).toUInt8

/-- The less significant byte of a word. -/
def lowByte (word : UInt16) : UInt8 := word.toUInt8

/-- The two bytes of a word in the order in which registers travel. -/
def bigEndian (word : UInt16) : List UInt8 := [highByte word, lowByte word]

/-- The two bytes of a word in the order in which the checksum travels. -/
def littleEndian (word : UInt16) : List UInt8 := [lowByte word, highByte word]

/-- The word that two bytes stand for. -/
def ofBytes (high low : UInt8) : UInt16 := high.toUInt16 * 256 + low.toUInt16

/-- Splitting a word and putting it together again changes nothing. -/
@[simp] theorem ofBytes_highByte_lowByte (word : UInt16) :
    ofBytes (highByte word) (lowByte word) = word := by
  apply UInt16.toNat_inj.1
  have small := word.toNat_lt
  simp [ofBytes, highByte, lowByte]
  omega

@[simp] theorem highByte_ofBytes (high low : UInt8) : highByte (ofBytes high low) = high := by
  apply UInt8.toNat_inj.1
  have smallHigh := high.toNat_lt
  have smallLow := low.toNat_lt
  simp [ofBytes, highByte]
  omega

@[simp] theorem lowByte_ofBytes (high low : UInt8) : lowByte (ofBytes high low) = low := by
  apply UInt8.toNat_inj.1
  simp [ofBytes, lowByte]

end BusNode.Word
