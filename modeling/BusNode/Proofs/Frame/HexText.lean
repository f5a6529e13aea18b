/-
This file proves what becomes of a hexadecimal text in a frame buffer. The digits are taken a pair at
a time, and three things can end that before there are none left: a digit without a partner, a pair
with a character that is no digit, and a pair for whose byte there is no room. Whichever of them
comes first is the one that is reported, and the bytes of the pairs before it have been added behind
what the buffer held.

So a new buffer is made of a text exactly if none of the three comes up, and a packet in writing is
read back.
-/
import BusNode.Frame.Buffer
import BusNode.Proofs.Hex.Grammar

namespace BusNode.FrameBuffer

open Hex (IsDigit Spells symbols)

variable {capacity : Nat}

/-! ### What ends the reading -/

/-- What ends the reading of digits into a buffer that has room for so many bytes more. -/
inductive Ends (capacity room : Nat) : List Char → Except Error Unit → Prop
  /-- There are no digits left. -/
  | done : Ends capacity room [] (.ok ())
  | oddDigits (symbol : Char) : Ends capacity room [symbol] (.error (.data (.hex .oddDigits)))
  | badPair {high low : Char} (bad : ¬ (IsDigit high ∧ IsDigit low)) (rest : List Char) :
    Ends capacity room (high :: low :: rest) (.error (.data (.hex (.badPair high low))))
  /-- The pair is sound, but there is no room for its byte. -/
  | full {high low : Char} (sound : IsDigit high ∧ IsDigit low) (full : room = 0)
    (rest : List Char) : Ends capacity room (high :: low :: rest) (.error (.bufferFull capacity))

theorem writeHex_snd (text : String) (buffer : FrameBuffer capacity) :
    (buffer.writeHex text).2 = buffer.write (Hex.read text).1 := rfl

/-- Only if there is room for all bytes it is the text that decides. -/
theorem writeHex_fst (text : String) (buffer : FrameBuffer capacity) :
    (buffer.writeHex text).1 =
      if buffer.takes (Hex.read text).1 then
        match (Hex.read text).2 with
        | none => .ok ()
        | some fault => .error (.data (.hex fault))
      else .error (.bufferFull capacity) := rfl

/-- Without more room the first pair of digits that spell anything ends the reading. -/
theorem Ends.of_spells {digits : List Char} {bytes : List UInt8} (spelled : Spells digits bytes)
    (some : bytes ≠ []) (rest : List Char) :
    Ends capacity 0 (digits ++ rest) (.error (.bufferFull capacity)) := by
  obtain ⟨byte, more, rfl⟩ := List.exists_cons_of_ne_nil some
  obtain ⟨high, low, digits, rfl, sound⟩ := spelled.starts
  exact .full sound rfl _

/-- The bytes that are added are spelled by the digits before what ends the reading. -/
theorem writeHex_ends (text : String) (buffer : FrameBuffer capacity) :
    ∃ spelled rest decoded, symbols text = spelled ++ rest ∧ Spells spelled decoded ∧
      (buffer.writeHex text).2.bytes = buffer.bytes ++ decoded ∧
      Ends capacity (buffer.writeHex text).2.remaining rest (buffer.writeHex text).1 := by
  obtain ⟨spelled, rest, same, spells, stops⟩ := Hex.readPairs_spells (symbols text)
  change Spells spelled (Hex.read text).1 at spells
  change Hex.Stops rest (Hex.read text).2 at stops
  rw [writeHex_fst, writeHex_snd]
  by_cases room : buffer.takes (Hex.read text).1 = true
  · refine ⟨spelled, rest, _, same, spells, bytes_write_of_takes room, ?_⟩
    rw [if_pos room]
    generalize (Hex.read text).2 = fault at stops
    cases stops with
    | done => exact .done
    | oddDigits symbol => exact .oddDigits symbol
    | badPair bad rest => exact .badPair bad rest
  · -- The reading ends where the room does, so what was spelled is cut there.
    rw [← List.take_append_drop buffer.remaining (Hex.read text).1] at spells
    obtain ⟨first, last, split, fitting, beyond⟩ := spells.split
    refine ⟨first, last ++ rest, _, ?_, fitting, rfl, ?_⟩
    · rw [same, split, List.append_assoc]
    · have short : buffer.remaining < (Hex.read text).1.length :=
        Nat.lt_of_not_le fun enough => room (takes_iff.mpr enough)
      have none : (buffer.write (Hex.read text).1).remaining = 0 := by
        have fits := buffer.fits
        rw [remaining, bytes_write, List.length_append, List.length_take,
          Nat.min_eq_left (Nat.le_of_lt short), remaining]
        omega
      have dropped : (Hex.read text).1.drop buffer.remaining ≠ [] := by
        rw [ne_eq, List.drop_eq_nil_iff]
        exact Nat.not_le.mpr short
      rw [if_neg room, none]
      exact .of_spells beyond dropped rest

/-! ### New buffers -/

/-- A buffer is made of a text if writing the text into an empty one finds no fault. -/
theorem ofHex_eq_ok_iff {text : String} {buffer : FrameBuffer capacity} :
    ofHex text = .ok buffer ↔
      (empty : FrameBuffer capacity).writeHex text = (.ok (), buffer) := by
  simp only [ofHex]
  cases (empty : FrameBuffer capacity).writeHex text with
  | mk answer read => cases answer <;> simp

/-- What a buffer that is made of a text holds is spelled by all of its digits. -/
theorem spells_of_ofHex {text : String} {buffer : FrameBuffer capacity}
    (made : ofHex text = .ok buffer) : Spells (symbols text) buffer.bytes := by
  obtain ⟨spelled, rest, decoded, same, spells, bytes, ends⟩ :=
    writeHex_ends text (empty : FrameBuffer capacity)
  rw [ofHex_eq_ok_iff.mp made] at bytes ends
  cases ends
  rw [same, List.append_nil, show buffer.bytes = decoded from bytes]
  exact spells

/-- No buffer that is made of a text has dropped any of it. -/
theorem overflow_of_ofHex {text : String} {buffer : FrameBuffer capacity}
    (made : ofHex text = .ok buffer) : buffer.overflow = false := by
  have read := ofHex_eq_ok_iff.mp made
  have answer : ((empty : FrameBuffer capacity).writeHex text).1 = .ok () := congrArg Prod.fst read
  have after : (empty : FrameBuffer capacity).write (Hex.read text).1 = buffer :=
    congrArg Prod.snd read
  rw [writeHex_fst] at answer
  split at answer
  · rename_i room
    rw [← after, overflow_write, room]
    rfl
  · cases answer

/-- A buffer is made of a text exactly if its digits come in pairs and there is room for a byte for
each of them. -/
theorem exists_ofHex_iff (text : String) :
    (∃ buffer : FrameBuffer capacity, ofHex text = .ok buffer) ↔
      Even (symbols text).length ∧ (∀ symbol ∈ symbols text, IsDigit symbol) ∧
        (symbols text).length / 2 ≤ capacity := by
  constructor
  · rintro ⟨buffer, made⟩
    have spelled := spells_of_ofHex made
    have length := spelled.length_eq
    have fits := buffer.fits
    exact ⟨⟨buffer.bytes.length, by omega⟩, fun symbol => spelled.isDigit, by omega⟩
  · rintro ⟨even, digits, room⟩
    obtain ⟨spelled, rest, decoded, same, spells, bytes, ends⟩ :=
      writeHex_ends text (empty : FrameBuffer capacity)
    have length := spells.length_eq
    rw [same, List.length_append, length] at even room
    have pairs : Even rest.length := (Nat.even_add.mp even).mp ⟨decoded.length, Nat.two_mul _⟩
    cases read : (empty : FrameBuffer capacity).writeHex text with
    | mk answer buffer =>
      rw [read] at ends bytes
      cases ends with
      | done => exact ⟨buffer, ofHex_eq_ok_iff.mpr read⟩
      | oddDigits symbol => exact absurd pairs (by simp)
      | @badPair high low bad rest =>
        refine absurd ⟨digits high ?_, digits low ?_⟩ bad <;> rw [same] <;> simp
      | full sound full rest =>
        have held : buffer.bytes.length = decoded.length := congrArg List.length bytes
        have filled : capacity - buffer.bytes.length = 0 := full
        simp only [List.length_cons] at room
        omega

/-- A packet in writing is read back, if there is room for it. -/
theorem ofHex_packet {bytes : List UInt8} (room : bytes.length ≤ capacity) :
    ∃ buffer : FrameBuffer capacity, ofHex (Hex.packet bytes) = .ok buffer ∧
      buffer.bytes = bytes := by
  have spelled := Hex.spells_packet bytes
  have length := spelled.length_eq
  have accepted : ∃ buffer : FrameBuffer capacity, ofHex (Hex.packet bytes) = .ok buffer :=
    (exists_ofHex_iff _).mpr
      ⟨⟨bytes.length, by omega⟩, fun symbol => spelled.isDigit, by omega⟩
  obtain ⟨buffer, made⟩ := accepted
  exact ⟨buffer, made, (spells_of_ofHex made).unique spelled⟩

/-- A buffer is made of a text exactly if the text is, without its blanks, an even number of digits
for no more bytes than there is room for, and then it holds what the digits spell. Any bytes for
which there is room are read back from the text that a packet of them is in writing. And where a
text is refused, the bytes that its digits spell up to the pair at which it fails have been added
behind what was there, and nothing else has. -/
theorem hex_text_is_read_to_its_fault (text : String) (packet : List UInt8)
    (buffer : FrameBuffer capacity) :
    ((∃ made : FrameBuffer capacity, ofHex text = .ok made) ↔
        Even (symbols text).length ∧ (∀ symbol ∈ symbols text, IsDigit symbol) ∧
          (symbols text).length / 2 ≤ capacity) ∧
      (∀ made : FrameBuffer capacity, ofHex text = .ok made →
        Spells (symbols text) made.bytes ∧ made.overflow = false) ∧
      (packet.length ≤ capacity → ∃ made : FrameBuffer capacity,
        ofHex (Hex.packet packet) = .ok made ∧ made.bytes = packet) ∧
      ∀ (error : Error) (after : FrameBuffer capacity),
        buffer.writeHex text = (.error error, after) →
          ∃ spelled rest decoded, symbols text = spelled ++ rest ∧ Spells spelled decoded ∧
            after.bytes = buffer.bytes ++ decoded ∧
            Ends capacity after.remaining rest (.error error) := by
  refine ⟨exists_ofHex_iff text, fun made read => ⟨spells_of_ofHex read, overflow_of_ofHex read⟩,
    ofHex_packet, fun error after failed => ?_⟩
  have ends := writeHex_ends text buffer
  rw [failed] at ends
  exact ends

/-- Blanks may part the digits of a pair. Where the second of two bytes finds no room, a pair further
on that is none does not show. -/
theorem parted_pairs_are_read :
    (∃ made : FrameBuffer 2, ofHex "1 1\t06" = .ok made) ∧
      (∃ made : FrameBuffer 2, ofHex (Hex.packet [0x11, 0x06]) = .ok made ∧
        made.bytes = [0x11, 0x06]) ∧
      ∃ spelled rest decoded, symbols "0102zz" = spelled ++ rest ∧ Spells spelled decoded ∧
        ((empty : FrameBuffer 2).append 0xAB).2.bytes ++ decoded = [0xAB, 0x01] ∧
        Ends 2 0 rest (.error (.bufferFull 2)) := by
  obtain ⟨made, -, readBack, -⟩ :=
    hex_text_is_read_to_its_fault "1 1\t06" [0x11, 0x06] (empty : FrameBuffer 2)
  obtain ⟨-, -, -, failing⟩ :=
    hex_text_is_read_to_its_fault "0102zz" [] ((empty : FrameBuffer 2).append 0xAB).2
  have digits : symbols "1 1\t06" = ['1', '1', '0', '6'] := by decide
  rw [digits] at made
  refine ⟨made.mpr ⟨⟨2, rfl⟩, ?_, by decide⟩, readBack (by decide), ?_⟩
  · simp [Hex.isDigit_iff_mem, Hex.lowerDigits]
  obtain ⟨spelled, rest, decoded, same, spells, bytes, ends⟩ := failing (.bufferFull 2)
    (((empty : FrameBuffer 2).append 0xAB).2.write [0x01, 0x02]) (by decide)
  exact ⟨spelled, rest, decoded, same, spells, bytes.symm, ends⟩

end BusNode.FrameBuffer
