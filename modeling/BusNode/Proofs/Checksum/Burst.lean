/-
This file proves that no frame is accepted that a short disturbance made of a valid one. A
disturbance that lasts for sixteen bits on the line may change any of them, in the data, in the
checksum or across the boundary between them. What it does to the register is the work of those bits
alone: the division reaches them with the register of the valid frame, the register has room for all
of them and so tells them apart, and the bits behind them keep the difference.
-/
import BusNode.Adu
import BusNode.Proofs.Checksum.Division

namespace BusNode

namespace Checksum

/-- Whether all bits in which two runs of bytes differ lie within a number of bits in a row, in the
order in which they travel. -/
def DifferWithin (width : Nat) (bytes other : List UInt8) : Prop :=
  ∃ first, ∀ place, (wireBits bytes)[place]? ≠ (wireBits other)[place]? →
    first ≤ place ∧ place < first + width

/-- Two runs of bytes that differ within a window are the same before it and after it. -/
theorem DifferWithin.same_outside {width : Nat} {bytes other : List UInt8}
    (confined : DifferWithin width bytes other) :
    ∃ first, (wireBits bytes).take first = (wireBits other).take first ∧
      (wireBits bytes).drop (first + width) = (wireBits other).drop (first + width) := by
  obtain ⟨first, within⟩ := confined
  refine ⟨first, List.ext_getElem? fun place => ?_, List.ext_getElem? fun place => ?_⟩
  · rw [List.getElem?_take, List.getElem?_take]
    split
    case isTrue before =>
      refine Decidable.byContradiction fun differ => ?_
      exact Nat.not_lt.mpr (within place differ).1 before
    case isFalse => rfl
  · rw [List.getElem?_drop, List.getElem?_drop]
    refine Decidable.byContradiction fun differ => ?_
    have bound := (within _ differ).2
    omega

/-- Bytes of one length that the division cannot tell apart, and that differ within no more bits
than the register has room for, do not differ. -/
theorem eq_of_compute_of_differWithin {bytes other : List UInt8}
    (length : other.length = bytes.length) (confined : DifferWithin 16 bytes other)
    (same : compute other = compute bytes) : other = bytes := by
  obtain ⟨first, before, behind⟩ := confined.same_outside
  have lengths : (wireBits other).length = (wireBits bytes).length := by
    rw [length_wireBits, length_wireBits, length]
  have split (bits : List Bool) :
      bits.take first ++ ((bits.drop first).take 16 ++ bits.drop (first + 16)) = bits := by
    rw [← List.drop_drop, List.take_append_drop, List.take_append_drop]
  refine wireBits_injective ?_
  have within : ((wireBits other).drop first).take 16 = ((wireBits bytes).drop first).take 16 := by
    rw [compute_eq, compute_eq, ← split (wireBits other), ← split (wireBits bytes), before, behind]
      at same
    simp only [List.foldl_append] at same
    refine eq_of_foldl_absorbBit ?_ ?_ (foldl_absorbBit_injective _ same)
    · rw [List.length_take, List.length_take, List.length_drop, List.length_drop, lengths]
    · rw [List.length_take]
      exact Nat.min_le_left _ _
  rw [← split (wireBits other), ← split (wireBits bytes), before, behind, within]

end Checksum

namespace Adu

open Checksum

/-- A frame of which a disturbance of up to sixteen bits in a row made another one is not accepted
any more, wherever the disturbance was. -/
theorem short_burst_refused {frame disturbed : List UInt8} (sound : check frame = .ok ())
    (length : disturbed.length = frame.length) (different : disturbed ≠ frame)
    (confined : DifferWithin 16 frame disturbed) :
    holds disturbed = false ∧ ∃ fault, check disturbed = .error fault := by
  obtain ⟨long, -, sealed⟩ := check_eq_ok_iff.mp sound
  have room : trailerLength ≤ frame.length := Nat.le_trans (by decide) long
  have unsealed : holds disturbed = false := by
    rw [← Bool.not_eq_true, holds_iff_compute_eq_zero (length ▸ room)]
    intro nothing
    refine different (eq_of_compute_of_differWithin length confined ?_)
    rw [nothing, (holds_iff_compute_eq_zero room).mp sealed]
  refine ⟨unsealed, ?_⟩
  cases judged : check disturbed with
  | error fault => exact ⟨fault, rfl⟩
  | ok _ =>
    obtain ⟨-, -, holds⟩ := check_eq_ok_iff.mp judged
    rw [unsealed] at holds
    cases holds

/-- Sixteen bits in a row are disturbed, across the boundary between the data and the checksum. -/
theorem burst_across_boundary_refused :
    check [0x11, 0x03, 0x00, 0x6B, 0x00, 0x03, 0x76, 0x87] = .ok () ∧
      DifferWithin 16 [0x11, 0x03, 0x00, 0x6B, 0x00, 0x03, 0x76, 0x87]
        [0x11, 0x03, 0x00, 0x6B, 0x00, 0xF3, 0x89, 0x88] ∧
      holds [0x11, 0x03, 0x00, 0x6B, 0x00, 0xF3, 0x89, 0x88] = false ∧
      ∃ fault, check [0x11, 0x03, 0x00, 0x6B, 0x00, 0xF3, 0x89, 0x88] = .error fault := by
  have sound : check [0x11, 0x03, 0x00, 0x6B, 0x00, 0x03, 0x76, 0x87] = .ok () :=
    check_eq_ok_iff.mpr (by decide +kernel)
  have confined : DifferWithin 16 [0x11, 0x03, 0x00, 0x6B, 0x00, 0x03, 0x76, 0x87]
      [0x11, 0x03, 0x00, 0x6B, 0x00, 0xF3, 0x89, 0x88] := by
    have within : ∀ place : Fin 64,
        (wireBits [0x11, 0x03, 0x00, 0x6B, 0x00, 0x03, 0x76, 0x87])[place.val]? ≠
            (wireBits [0x11, 0x03, 0x00, 0x6B, 0x00, 0xF3, 0x89, 0x88])[place.val]? →
          44 ≤ place.val ∧ place.val < 60 := by
      decide +kernel
    refine ⟨44, fun place differ => ?_⟩
    by_cases inside : place < 64
    · exact within ⟨place, inside⟩ differ
    · refine absurd ?_ differ
      rw [List.getElem?_eq_none, List.getElem?_eq_none] <;> rw [length_wireBits] <;>
        exact Nat.not_lt.mp inside
  exact ⟨sound, confined, short_burst_refused sound rfl (by decide) confined⟩

end Adu

end BusNode
