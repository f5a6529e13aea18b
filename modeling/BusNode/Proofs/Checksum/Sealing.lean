/-
This file proves that a checksum comes out the same on whichever way it gets behind the bytes that
it covers: written over the last two bytes of a frame, or added to a buffer that holds the bytes
before them. A frame passes the check exactly if writing its checksum once more would change
nothing, and so whatever stands before the last two bytes, one choice of these passes and no other
does.

A buffer with room for half a checksum takes that half. It says so, and the frame in it is refused
for the half that was dropped.
-/
import BusNode.Frame.Buffer
import Mathlib.Data.List.Basic

namespace BusNode

namespace Checksum

/-! ### Frames -/

/-- A frame with room for a checksum is what the checksum covers and two bytes more. -/
theorem exists_body_append_pair {frame : List UInt8} (long : trailerLength ≤ frame.length) :
    ∃ first second, frame = body frame ++ [first, second] := by
  have length : (frame.drop (frame.length - trailerLength)).length = 2 := by
    rw [List.length_drop]
    exact Nat.sub_sub_self long
  obtain ⟨first, second, last⟩ := List.length_eq_two.mp length
  refine ⟨first, second, ?_⟩
  rw [← last]
  exact (List.take_append_drop _ frame).symm

theorem reseal_append_pair (bytes : List UInt8) (first second : UInt8) :
    reseal (bytes ++ [first, second]) = bytes ++ trailer bytes := by
  have long : ¬ (bytes ++ [first, second]).length < trailerLength := by
    rw [List.length_append, Nat.not_lt]
    exact Nat.le_add_left 2 bytes.length
  rw [reseal, if_neg long, body_append_pair]

theorem reseal_of_short {frame : List UInt8} (short : frame.length < trailerLength) :
    reseal frame = frame := if_pos short

/-- Two bytes pass the check exactly if they are the checksum of those before them. -/
theorem holds_append_pair (bytes : List UInt8) (first second : UInt8) :
    holds (bytes ++ [first, second]) = true ↔ [first, second] = trailer bytes := by
  have long : trailerLength ≤ (bytes ++ [first, second]).length := by
    rw [List.length_append]
    exact Nat.le_add_left 2 bytes.length
  have last : (bytes ++ [first, second]).drop ((bytes ++ [first, second]).length - trailerLength) =
      [first, second] := by
    rw [List.length_append]
    exact List.drop_left
  rw [holds, decide_eq_true long, Bool.true_and, last, body_append_pair, beq_iff_eq]

theorem holds_append_trailer (bytes : List UInt8) : holds (bytes ++ trailer bytes) = true :=
  (holds_append_pair bytes _ _).mpr rfl

@[simp] theorem length_reseal (frame : List UInt8) : (reseal frame).length = frame.length := by
  by_cases short : frame.length < trailerLength
  · rw [reseal_of_short short]
  · obtain ⟨first, second, split⟩ := exists_body_append_pair (Nat.not_lt.mp short)
    rw [split, reseal_append_pair, List.length_append, List.length_append]
    rfl

/-- Nothing changes before the last two bytes. -/
@[simp] theorem body_reseal (frame : List UInt8) : body (reseal frame) = body frame := by
  by_cases short : frame.length < trailerLength
  · rw [reseal_of_short short]
  · obtain ⟨first, second, split⟩ := exists_body_append_pair (Nat.not_lt.mp short)
    rw [split, reseal_append_pair, body_append_pair]
    exact body_append_pair _ _ _

/-- A checksum does not change what it is the checksum of. -/
@[simp] theorem reseal_reseal (frame : List UInt8) : reseal (reseal frame) = reseal frame := by
  by_cases short : frame.length < trailerLength
  · rw [reseal_of_short short, reseal_of_short short]
  · obtain ⟨first, second, split⟩ := exists_body_append_pair (Nat.not_lt.mp short)
    rw [split, reseal_append_pair]
    exact reseal_append_pair _ _ _

/-- A frame passes the check exactly if writing its checksum again leaves it as it is. -/
theorem holds_iff_reseal_eq {frame : List UInt8} (long : trailerLength ≤ frame.length) :
    holds frame = true ↔ reseal frame = frame := by
  obtain ⟨first, second, split⟩ := exists_body_append_pair long
  rw [split, holds_append_pair, reseal_append_pair, List.append_cancel_left_eq, eq_comm]

/-- Whatever comes before them, one choice of the last two bytes passes the check. -/
theorem existsUnique_holds (bytes : List UInt8) :
    ∃! pair : UInt8 × UInt8, holds (bytes ++ [pair.1, pair.2]) = true := by
  refine ⟨(Word.lowByte (compute bytes), Word.highByte (compute bytes)), holds_append_trailer bytes,
    fun pair sealed => ?_⟩
  have same : [pair.1, pair.2] = [Word.lowByte (compute bytes), Word.highByte (compute bytes)] :=
    (holds_append_pair _ _ _).mp sealed
  obtain ⟨first, rest⟩ := List.cons.inj same
  exact Prod.ext first (List.cons.inj rest).1

end Checksum

namespace FrameBuffer

open Checksum

variable {capacity : Nat}

/-! ### Buffers -/

/-- Where there is room for a checksum, it is added whole. -/
theorem appendChecksum_of_room {buffer : FrameBuffer capacity}
    (room : trailerLength ≤ buffer.remaining) :
    buffer.appendChecksum.1 = true ∧
      buffer.appendChecksum.2.bytes = buffer.bytes ++ Checksum.trailer buffer.bytes := by
  have takes : buffer.takes buffer.trailer = true := takes_iff.mpr room
  exact ⟨takes, bytes_write_of_takes takes⟩

/-- Where there is no room for a checksum, the frame is refused for what it lost. -/
theorem appendChecksum_of_cramped {buffer : FrameBuffer capacity}
    (cramped : buffer.remaining < trailerLength) :
    buffer.appendChecksum.1 = false ∧ buffer.appendChecksum.2.check = .error .overflow := by
  have refuses : buffer.takes buffer.trailer = false :=
    decide_eq_false (Nat.not_le.mpr cramped)
  have lost : (buffer.write buffer.trailer).overflow = true := by
    rw [overflow_write, refuses, Bool.not_false, Bool.or_true]
  exact ⟨refuses, if_pos lost⟩

/-- A checksum that is written over the last two bytes of a frame, whichever they were, and one
that is added to a buffer with room for it are the same. Writing it changes no other byte, and a
second time nothing. A frame passes the check exactly if it stays as it is, and just one choice of
its last two bytes passes. A buffer with no room for a checksum says so, and the frame in it is
refused for what it lost. -/
theorem checksum_paths_agree (buffer : FrameBuffer capacity) (frame : List UInt8)
    (first second : UInt8) :
    (trailerLength ≤ buffer.remaining → buffer.appendChecksum.1 = true ∧
        buffer.appendChecksum.2.bytes = reseal (buffer.bytes ++ [first, second])) ∧
      ((reseal frame).length = frame.length ∧ body (reseal frame) = body frame ∧
        reseal (reseal frame) = reseal frame) ∧
      (trailerLength ≤ frame.length → (holds frame = true ↔ reseal frame = frame) ∧
        ∃! pair : UInt8 × UInt8, holds (body frame ++ [pair.1, pair.2]) = true) ∧
      (buffer.remaining < trailerLength → buffer.appendChecksum.1 = false ∧
        buffer.appendChecksum.2.check = .error .overflow) := by
  refine ⟨fun room => ?_, ⟨length_reseal frame, body_reseal frame, reseal_reseal frame⟩,
    fun long => ⟨holds_iff_reseal_eq long, existsUnique_holds (body frame)⟩,
    appendChecksum_of_cramped⟩
  rw [reseal_append_pair]
  exact appendChecksum_of_room room

/-- The same request in a buffer that has just room for its checksum, and in one that can take only
half of it. -/
theorem request_sealed_and_cut :
    (((empty : FrameBuffer 8).write
          [0x11, 0x03, 0x00, 0x6B, 0x00, 0x03]).appendChecksum.2.bytes =
        reseal [0x11, 0x03, 0x00, 0x6B, 0x00, 0x03, 0xAA, 0x55] ∧
      reseal [0x11, 0x03, 0x00, 0x6B, 0x00, 0x03, 0xAA, 0x55] =
        [0x11, 0x03, 0x00, 0x6B, 0x00, 0x03, 0x76, 0x87]) ∧
      holds [0x11, 0x03, 0x00, 0x6B, 0x00, 0x03, 0x76, 0x87] = true ∧
      ((empty : FrameBuffer 7).write
          [0x11, 0x03, 0x00, 0x6B, 0x00, 0x03]).appendChecksum.2.check = .error .overflow := by
  obtain ⟨roomy, -, checked, -⟩ := checksum_paths_agree
    ((empty : FrameBuffer 8).write [0x11, 0x03, 0x00, 0x6B, 0x00, 0x03])
    [0x11, 0x03, 0x00, 0x6B, 0x00, 0x03, 0x76, 0x87] 0xAA 0x55
  obtain ⟨-, -, -, cramped⟩ := checksum_paths_agree
    ((empty : FrameBuffer 7).write [0x11, 0x03, 0x00, 0x6B, 0x00, 0x03]) [] 0xAA 0x55
  obtain ⟨unchanged, -⟩ := checked (by decide)
  exact ⟨⟨(roomy (by decide)).2, by decide +kernel⟩, unchanged.mpr (by decide +kernel),
    (cramped (by decide)).2⟩

end FrameBuffer

end BusNode
