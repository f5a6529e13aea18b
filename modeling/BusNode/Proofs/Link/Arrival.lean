/-
This file says what it takes for one frame to come in whole and on its own. Its bytes are read one
by one. No reading of the clock between them finds that more than the allowed silence has passed
since the latest byte, some reading after the last of them does, and nothing is read after that.

This looks only at what was read and at the clock, and never at a link. A history of which it is
true is cut into just that frame.
-/
import BusNode.Proofs.Link.Segments

namespace BusNode

/-! ### What came in, and when -/

/-- The bytes that came in, and what the clock said when the latest of them was stored, once it was
asked. -/
structure Intake where
  bytes : List UInt8 := []
  stamp : Option UInt32 := none

namespace Intake

/-- Takes one more effect into account. The first reading of the clock after a byte is the time of
that byte. -/
def next (intake : Intake) (effect : Effect) : Intake :=
  match effect with
  | .read (.ok (some byte)) => { bytes := intake.bytes ++ [byte], stamp := none }
  | .micros now =>
    if intake.bytes.isEmpty then intake else { intake with stamp := intake.stamp.or (some now) }
  | _ => intake

/-- Whether an effect is a reading by which more than the limit has passed since the latest byte. -/
def lapses (limit : UInt32) (intake : Intake) (effect : Effect) : Bool :=
  match effect with
  | .micros now => intake.stamp.any fun last => Clock.elapsed now last limit
  | _ => false

/-- Whether effects complete a frame. The first reading that finds the line silent since the latest
byte comes when the frame is whole, and nothing comes in after it. -/
def completes (limit : UInt32) (frame : List UInt8) (intake : Intake) : List Effect → Bool
  | [] => false
  | effect :: rest =>
    if intake.lapses limit effect then intake.bytes == frame && Link.received rest == []
    else (intake.next effect).completes limit frame rest

end Intake

namespace Link

/-- Whether a frame came in whole and on its own during a history: with no gap beyond the limit
between its bytes, and followed by a silence beyond it. -/
def takesIn (limit : UInt32) (frame : List UInt8) (history : List Effect) : Bool :=
  Intake.completes limit frame {} history

end Link

/-! ### A frame that came in is a segment -/

namespace Segments

variable {limit : UInt32} {segments : Segments} {intake : Intake} {effect : Effect}
  {effects : List Effect}

/-- While no segment is open and nothing comes in, none ends. -/
theorem foldl_of_unread (opened : segments.opened = []) (stamp : segments.stamp = none)
    (unread : Link.received effects = []) :
    (effects.foldl (next limit) segments).ended = segments.ended ∧
      (effects.foldl (next limit) segments).opened = [] := by
  induction effects generalizing segments with
  | nil => exact ⟨rfl, opened⟩
  | cons effect rest inductionHypothesis =>
    rw [List.foldl_cons]
    match effect with
    | .read (.ok (some byte)) => cases unread
    | .read (.ok none) | .read (.error _) =>
      refine inductionHypothesis ?_ ?_ unread
      · exact opened
      · exact stamp
    | .micros now =>
      have same : segments.next limit (.micros now) = segments := by
        simp [next, stamp, opened]
      rw [same]
      exact inductionHypothesis opened stamp unread
    | .millis _ | .drive _ _ | .write _ _ | .flush _ | .note _ | .report _ =>
      exact inductionHypothesis opened stamp unread

/-- No segment has ended, and the one that is open is what came in. -/
structure Gathers (segments : Segments) (intake : Intake) : Prop where
  ended : segments.ended = []
  opened : segments.opened = intake.bytes
  stamp : segments.stamp = intake.stamp

theorem Gathers.next (gathers : segments.Gathers intake)
    (steady : intake.lapses limit effect = false) :
    (segments.next limit effect).Gathers (intake.next effect) := by
  obtain ⟨ended, opened, stamp⟩ := gathers
  match effect with
  | .read (.ok (some byte)) => exact ⟨ended, by rw [Segments.next, opened]; rfl, rfl⟩
  | .read (.ok none) | .read (.error _) => exact ⟨ended, opened, stamp⟩
  | .micros now =>
    cases stamped : segments.stamp with
    | some last =>
      rw [stamped] at stamp
      have soon : Clock.elapsed now last limit = false := by
        simpa [Intake.lapses, ← stamp] using steady
      rw [next_of_soon stamped soon]
      refine ⟨ended, ?_, ?_⟩
      · rw [opened, Intake.next]
        split <;> rfl
      · rw [stamped, stamp, Intake.next]
        split <;> simp [← stamp]
    | none =>
      rw [stamped] at stamp
      have blank : segments.opened.isEmpty = intake.bytes.isEmpty := by rw [opened]
      simp only [Segments.next, stamped, Intake.next, blank, ← stamp]
      split
      · exact ⟨ended, opened, stamped.trans stamp⟩
      · exact ⟨ended, opened, rfl⟩
  | .millis _ | .drive _ _ | .write _ _ | .flush _ | .note _ | .report _ =>
    exact ⟨ended, opened, stamp⟩

/-- What came in up to the first silence is the segment that the silence ends. -/
theorem Gathers.close {frame : List UInt8} (gathers : segments.Gathers intake)
    (completes : intake.completes limit frame effects = true) :
    (effects.foldl (Segments.next limit) segments).ended = [frame] ∧
      (effects.foldl (Segments.next limit) segments).opened = [] := by
  induction effects generalizing segments intake with
  | nil => cases completes
  | cons effect rest inductionHypothesis =>
    rw [List.foldl_cons]
    rw [Intake.completes] at completes
    cases lapses : intake.lapses limit effect with
    | false =>
      rw [lapses, if_neg Bool.false_ne_true] at completes
      exact inductionHypothesis (gathers.next lapses) completes
    | true =>
      rw [lapses, if_pos rfl, Bool.and_eq_true, beq_iff_eq, beq_iff_eq] at completes
      obtain ⟨whole, unread⟩ := completes
      match effect with
      | .micros now =>
        cases stamped : intake.stamp with
        | none => simp [Intake.lapses, stamped] at lapses
        | some last =>
          have lapsed : Clock.elapsed now last limit = true := by
            simpa [Intake.lapses, stamped] using lapses
          rw [next_of_lapsed (gathers.stamp.trans stamped) lapsed]
          have closed : segments.close.opened = [] ∧ segments.close.stamp = none := ⟨rfl, rfl⟩
          obtain ⟨ended, opened⟩ := foldl_of_unread closed.1 closed.2 unread
          refine ⟨?_, opened⟩
          rw [ended, Segments.close, gathers.ended, gathers.opened, whole]
          rfl
      | .read _ | .millis _ | .drive _ _ | .write _ _ | .flush _ | .note _ | .report _ =>
        cases lapses

end Segments

namespace Link

theorem segments_of_unread {limit : UInt32} {history : List Effect}
    (unread : received history = []) :
    (Segments.ofHistory limit history).ended = [] ∧
      (Segments.ofHistory limit history).opened = [] :=
  Segments.foldl_of_unread rfl rfl unread

/-- A history that takes in a frame is cut into that frame, and no segment stays open. -/
theorem segments_of_takesIn {limit : UInt32} {frame : List UInt8} {history : List Effect}
    (takesIn : takesIn limit frame history = true) :
    (Segments.ofHistory limit history).ended = [frame] ∧
      (Segments.ofHistory limit history).opened = [] :=
  Segments.Gathers.close ⟨rfl, rfl, rfl⟩ takesIn

end Link

end BusNode
