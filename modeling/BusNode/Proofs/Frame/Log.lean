/-
This file proves that a frame buffer is a log that was cut off at its capacity. Whatever was written
to it, and in however many parts, it holds the first bytes of all of that, and remembers exactly
whether there were more.
-/
import BusNode.Frame.Buffer

namespace BusNode

/-- No frame is refused for bytes that are not there any more. -/
theorem Adu.check_ne_overflow (frame : List UInt8) : check frame ≠ .error .overflow := by
  unfold check
  split
  · simp
  · split
    · split <;> simp
    · simp

namespace FrameBuffer

variable {capacity : Nat}

/-- A buffer to which these bytes were written since it was empty. -/
structure Logs (buffer : FrameBuffer capacity) (written : List UInt8) : Prop where
  bytes : buffer.bytes = written.take capacity
  overflow : buffer.overflow = decide (capacity < written.length)

theorem logs_empty : Logs (empty : FrameBuffer capacity) [] where
  bytes := List.take_nil.symm
  overflow := (decide_eq_false (Nat.not_lt_zero capacity)).symm

namespace Logs

variable {buffer : FrameBuffer capacity} {written : List UInt8}

theorem write (logs : Logs buffer written) (bytes : List UInt8) :
    Logs (buffer.write bytes) (written ++ bytes) where
  bytes := by
    rw [bytes_write, remaining, logs.bytes, List.take_append, List.length_take]
    congr 2
    omega
  overflow := by
    have held : buffer.bytes.length = min capacity written.length := by
      rw [logs.bytes, List.length_take]
    have room : buffer.takes bytes =
        decide (bytes.length ≤ capacity - min capacity written.length) := by
      rw [takes, remaining, held]
    rw [overflow_write, room, logs.overflow, List.length_append, Bool.eq_iff_iff]
    simp only [Bool.or_eq_true, Bool.not_eq_true', decide_eq_true_eq, decide_eq_false_iff_not]
    omega

theorem length_le (logs : Logs buffer written) (kept : buffer.overflow = false) :
    written.length ≤ capacity := by
  rw [logs.overflow, decide_eq_false_iff_not, Nat.not_lt] at kept
  exact kept

/-- A buffer that dropped nothing holds all that was written. -/
theorem bytes_eq (logs : Logs buffer written) (kept : buffer.overflow = false) :
    buffer.bytes = written := by
  rw [logs.bytes, List.take_of_length_le (logs.length_le kept)]

theorem writeChecksum (logs : Logs buffer written) (kept : buffer.overflow = false) :
    Logs buffer.writeChecksum (written ++ Checksum.trailer written) := by
  rw [FrameBuffer.writeChecksum, FrameBuffer.appendChecksum, logs.bytes_eq kept]
  exact logs.write (Checksum.trailer written)

/-- A buffer with some capacity is empty only if nothing was written. -/
theorem isEmpty_iff (logs : Logs buffer written) (roomy : 0 < capacity) :
    buffer.isEmpty = true ↔ written = [] := by
  rw [isEmpty, List.isEmpty_iff, logs.bytes, List.take_eq_nil_iff]
  simp only [Nat.ne_of_gt roomy, false_or]

end Logs

/-- A buffer is refused for an overflow exactly if it remembers one. -/
theorem check_eq_overflow_iff {buffer : FrameBuffer capacity} :
    buffer.check = .error .overflow ↔ buffer.overflow = true := by
  unfold check
  split
  · rename_i dropped
    exact iff_of_true rfl dropped
  · rename_i kept
    exact iff_of_false (Adu.check_ne_overflow _) kept

end FrameBuffer

end BusNode
