/-
This file proves that a frame buffer keeps the first bytes of all that it is given, and knows exactly
whether there were more. What is given may come a byte at a time, in words of either order, in runs
of any length, as hexadecimal text, or as the checksum of what is already held. Some of these stop
at the first byte for which there is no room and others do not, but no byte comes in after one was
dropped, so the difference does not show.

A frame that is built of parts is such a buffer, and building it fails exactly if the parts are
longer than a frame.
-/
import BusNode.Proofs.Frame.HexText
import BusNode.Proofs.Frame.Log
import BusNode.Request.Build
import Mathlib.Data.List.TakeDrop

namespace BusNode

namespace FrameBuffer

variable {capacity : Nat}

/-! ### Calls -/

/-- One call that writes to a buffer. -/
inductive Call where
  | byte (value : UInt8)
  | bytes (values : List UInt8)
  /-- A word, its high byte first. -/
  | bigEndian (value : UInt16)
  /-- A word, its low byte first. -/
  | littleEndian (value : UInt16)
  | checksum
  | hex (text : String)
  deriving DecidableEq

namespace Call

/-- The bytes that a call tries to store. A text is read up to its first fault, and no further than
the first byte for which there is no room. -/
def offers (buffer : FrameBuffer capacity) : Call → List UInt8
  | byte value => [value]
  | bytes values => values
  | bigEndian value => Word.bigEndian value
  | littleEndian value => Word.littleEndian value
  | checksum => buffer.trailer
  | hex text => (Hex.read text).1.take (buffer.remaining + 1)

/-- Makes a call. The answer is false only if the call found no room. -/
def make (buffer : FrameBuffer capacity) : Call → Bool × FrameBuffer capacity
  | byte value => buffer.append value
  | bytes values => buffer.extend values
  | bigEndian value => buffer.appendBigEndian value
  | littleEndian value => buffer.appendLittleEndian value
  | checksum => buffer.appendChecksum
  | hex text =>
    let (answer, buffer) := buffer.writeHex text
    (answer ≠ .error (.bufferFull capacity), buffer)

/-- The buffer after a call. -/
def perform (buffer : FrameBuffer capacity) (call : Call) : FrameBuffer capacity :=
  (call.make buffer).2

/-- Whether a call says that it found no room. -/
def isRefused (buffer : FrameBuffer capacity) (call : Call) : Bool := !(call.make buffer).1

end Call

/-- The buffer after calls one after another. -/
def run (calls : List Call) (buffer : FrameBuffer capacity) : FrameBuffer capacity :=
  calls.foldl Call.perform buffer

/-- All bytes that calls try to store. -/
def offered : List Call → FrameBuffer capacity → List UInt8
  | [], _ => []
  | call :: rest, buffer => call.offers buffer ++ offered rest (call.perform buffer)

/-! ### Single calls -/

theorem takes_take_succ (bytes : List UInt8) (buffer : FrameBuffer capacity) :
    buffer.takes (bytes.take (buffer.remaining + 1)) = buffer.takes bytes := by
  rw [takes, takes, List.length_take, decide_eq_decide]
  omega

/-- Bytes behind the first one for which there is no room make no difference. -/
theorem write_take_succ (bytes : List UInt8) (buffer : FrameBuffer capacity) :
    buffer.write (bytes.take (buffer.remaining + 1)) = buffer.write bytes := by
  ext1
  · rw [bytes_write, bytes_write, List.take_take, Nat.min_eq_left (Nat.le_succ _)]
  · rw [overflow_write, overflow_write, takes_take_succ]

/-- Bytes are added whole only where there is room for all of them. -/
theorem bytes_write_eq_iff {bytes : List UInt8} {buffer : FrameBuffer capacity} :
    (buffer.write bytes).bytes = buffer.bytes ++ bytes ↔ buffer.takes bytes = true := by
  rw [bytes_write, List.append_cancel_left_eq, List.take_eq_self_iff, takes_iff]

/-- A text is refused for want of room exactly if there is none for its bytes. -/
theorem writeHex_fst_eq_full_iff (text : String) (buffer : FrameBuffer capacity) :
    (buffer.writeHex text).1 = .error (.bufferFull capacity) ↔
      ¬ buffer.takes (Hex.read text).1 = true := by
  rw [writeHex_fst]
  split
  · rename_i room
    refine iff_of_false ?_ (not_not_intro room)
    split <;> simp
  · rename_i cramped
    exact iff_of_true rfl cramped

/-- Whatever a call tries to store is written as far as there is room. -/
theorem perform_eq (buffer : FrameBuffer capacity) (call : Call) :
    call.perform buffer = buffer.write (call.offers buffer) := by
  cases call with
  | byte _ | bytes _ | bigEndian _ | littleEndian _ | checksum => rfl
  | hex text => exact (write_take_succ _ _).symm

/-- A call says that it found no room exactly if there is none for what it tries to store. -/
theorem isRefused_iff (buffer : FrameBuffer capacity) (call : Call) :
    call.isRefused buffer = true ↔ ¬ buffer.takes (call.offers buffer) = true := by
  cases call with
  | byte _ | bytes _ | bigEndian _ | littleEndian _ | checksum =>
    exact Iff.of_eq ((Bool.not_eq_true' _).trans (Bool.not_eq_true _).symm)
  | hex text =>
    rw [Call.isRefused, Bool.not_eq_true', Call.offers, takes_take_succ, ← writeHex_fst_eq_full_iff]
    exact decide_eq_false_iff_not.trans not_not

/-! ### Any calls -/

theorem Logs.perform {buffer : FrameBuffer capacity} {written : List UInt8}
    (logs : Logs buffer written) (call : Call) :
    Logs (call.perform buffer) (written ++ call.offers buffer) := by
  rw [perform_eq]
  exact logs.write _

theorem Logs.run {buffer : FrameBuffer capacity} {written : List UInt8}
    (logs : Logs buffer written) (calls : List Call) :
    Logs (buffer.run calls) (written ++ offered calls buffer) := by
  induction calls generalizing buffer written with
  | nil =>
    rw [offered, List.append_nil]
    exact logs
  | cons call rest inductionHypothesis =>
    rw [offered, ← List.append_assoc]
    exact inductionHypothesis (logs.perform call)

/-- A buffer that calls have written to since it was empty holds the first of all bytes that they
tried to store. -/
theorem logs_run (calls : List Call) :
    Logs ((empty : FrameBuffer capacity).run calls) (offered calls (empty : FrameBuffer capacity)) :=
  logs_empty.run calls

end FrameBuffer

namespace Request

open FrameBuffer

/-- A frame that is put together holds the first of all bytes of its parts. -/
theorem assemble_logs (parts : List Part) : Logs (assemble parts) (parts.flatMap Part.encode) := by
  have grows (frame : Frame) (written : List UInt8) (logs : Logs frame written) :
      Logs (parts.foldl (fun frame part => frame.write part.encode) frame)
        (written ++ parts.flatMap Part.encode) := by
    induction parts generalizing frame written with
    | nil =>
      rw [List.flatMap_nil, List.append_nil]
      exact logs
    | cons part rest inductionHypothesis =>
      rw [List.flatMap_cons, ← List.append_assoc]
      exact inductionHypothesis _ _ (logs.write part.encode)
  exact grows .empty [] logs_empty

theorem overflow_assemble (parts : List Part) :
    (assemble parts).overflow = false ↔ (parts.flatMap Part.encode).length ≤ Adu.maxLength := by
  rw [(assemble_logs parts).overflow, decide_eq_false_iff_not, Nat.not_lt]

/-- A frame is built of parts exactly if they are no longer than a frame. -/
theorem exists_build_iff (parts : List Part) :
    (∃ frame, build parts = .ok frame) ↔
      (parts.flatMap Part.encode).length ≤ Adu.maxLength := by
  rw [← overflow_assemble, build]
  cases (assemble parts).overflow with
  | false => exact iff_of_true ⟨_, rfl⟩ rfl
  | true => exact iff_of_false (by rintro ⟨_, ⟨⟩⟩) Bool.noConfusion

/-- A frame that is built of parts holds their bytes. -/
theorem bytes_of_build {parts : List Part} {frame : Frame} (built : build parts = .ok frame) :
    frame.bytes = parts.flatMap Part.encode := by
  rw [build] at built
  split at built
  · cases built
  · rename_i kept
    cases built
    exact (assemble_logs parts).bytes_eq (Bool.eq_false_iff.mpr kept)

end Request

namespace FrameBuffer

/-- After any calls a buffer holds the first of all bytes that they tried to store, as far as there
is room, and remembers an overflow exactly if there were more, in which case it is full and a frame
in it is refused for the overflow. The room that is left is never less than nothing. At any time a
call says that it found no room exactly if not all of its own bytes got in. And a frame is built of
parts exactly if they are no longer than a frame, and then it holds them all. -/
theorem keeps_the_first_bytes (calls : List Call) (call : Call) (parts : List Request.Part) :
    let buffer := (empty : FrameBuffer capacity).run calls
    let all := offered calls (empty : FrameBuffer capacity)
    buffer.bytes = all.take capacity ∧
      (buffer.overflow = true ↔ capacity < all.length) ∧
      (buffer.overflow = true → buffer.length = capacity) ∧
      buffer.length + buffer.remaining = capacity ∧
      (buffer.check = .error .overflow ↔ capacity < all.length) ∧
      (call.isRefused buffer = true ↔
        (call.perform buffer).bytes ≠ buffer.bytes ++ call.offers buffer) ∧
      ((∃ frame, Request.build parts = .ok frame) ↔
        (parts.flatMap Request.Part.encode).length ≤ Adu.maxLength) ∧
      ∀ frame, Request.build parts = .ok frame →
        frame.bytes = parts.flatMap Request.Part.encode := by
  intro buffer all
  have logs : Logs buffer all := logs_run calls
  have flag : buffer.overflow = true ↔ capacity < all.length := by
    rw [logs.overflow, decide_eq_true_eq]
  have length : buffer.length = min capacity all.length := by
    rw [FrameBuffer.length, logs.bytes, List.length_take]
  refine ⟨logs.bytes, flag, fun dropped => ?_, ?_, check_eq_overflow_iff.trans flag, ?_,
    Request.exists_build_iff parts, fun frame => Request.bytes_of_build⟩
  · rw [length, Nat.min_eq_left (Nat.le_of_lt (flag.mp dropped))]
  · have held : buffer.bytes.length = min capacity all.length := length
    rw [length, remaining, held]
    omega
  · rw [isRefused_iff, perform_eq, ne_eq, bytes_write_eq_iff]

/-- Half a word gets in where there is room for no more. -/
example :
    let buffer := (empty : FrameBuffer 4).run [.byte 1, .bigEndian 0x0203, .littleEndian 0x0405]
    buffer.bytes = [1, 2, 3, 5] ∧ buffer.check = .error .overflow := by
  decide

end FrameBuffer

end BusNode
