import FlightRule.Requirement

/-!
# Shapes and the order of flights

The shape of a journey is asked of its flown segments in the order of travel, but no shape depends
on that order, nor on the order of the flights in the other part of the unit
(`ShapeConstraint.holds_of_perm`).  To have the same flight is an equivalence, so that it does not
matter which segment the others are compared with.
-/

namespace FlightRule
namespace Segment

theorem sameFlight_comm (left right : Segment) :
    left.sameFlight right = right.sameFlight left := by
  rw [sameFlight, sameFlight, Text.alike_comm, Bool.beq_comm]

theorem sameFlight_trans
    {first second third : Segment}
    (left : first.sameFlight second = true)
    (right : second.sameFlight third = true) :
    first.sameFlight third = true := by
  simp only [sameFlight, Bool.and_eq_true, beq_iff_eq] at *
  exact ⟨Text.alike_trans left.1 right.1, left.2.trans right.2⟩

variable {segments others : List Segment}

/-- No flight is used twice when any two segments have different flights. -/
theorem repeatsFlight_eq_false_iff :
    repeatsFlight segments = false ↔
      segments.Pairwise fun first second => first.sameFlight second = false := by
  induction segments with
  | nil => simp [repeatsFlight]
  | cons segment segments inductionHypothesis =>
      rw [repeatsFlight, Bool.or_eq_false_iff, List.any_eq_false, inductionHypothesis,
        List.pairwise_cons]
      simp only [Bool.not_eq_true]

theorem repeatsFlight_of_perm (perm : segments.Perm others) :
    repeatsFlight segments = repeatsFlight others := by
  rw [Bool.eq_iff_iff, ← Decidable.not_iff_not, Bool.not_eq_true, Bool.not_eq_true,
    repeatsFlight_eq_false_iff, repeatsFlight_eq_false_iff]
  apply perm.pairwise_iff
  intro first second different
  rw [sameFlight_comm, different]

theorem carriers_of_perm (perm : segments.Perm others) : carriers segments = carriers others := by
  apply Ordered.Ascending.ext (Ordered.ascending_ofList _) (Ordered.ascending_ofList _)
  intro code
  rw [Ordered.mem_ofList, Ordered.mem_ofList]
  exact (perm.map _).mem_iff

theorem stopCount_of_perm (perm : segments.Perm others) (countHidden : Bool) :
    stopCount segments countHidden = stopCount others countHidden := by
  rw [stopCount, stopCount, perm.length_eq, (perm.flatMap_right hiddenStops).length_eq]

end Segment

namespace ShapeKind

variable {segments others opposite otherOpposite : List Segment} {countHidden : Bool}

/-- One flight throughout means that some segment has the flight of all segments. -/
theorem holds_direct_iff :
    direct.holds segments opposite countHidden = true ↔
      ∃ flight ∈ segments, ∀ segment ∈ segments, segment.sameFlight flight = true := by
  cases segments with
  | nil => simp [holds]
  | cons first rest =>
      simp only [holds, List.head?_cons, Option.any_some, List.all_eq_true]
      constructor
      · intro sameAsFirst
        exact ⟨first, List.mem_cons_self, sameAsFirst⟩
      · rintro ⟨flight, _, sameAsFlight⟩ segment member
        have firstSame := sameAsFlight first List.mem_cons_self
        rw [Segment.sameFlight_comm] at firstSame
        exact Segment.sameFlight_trans (sameAsFlight segment member) firstSame

/-- No shape depends on the order of the segments or of the flights in the other part. -/
theorem holds_of_perm
    (kind : ShapeKind)
    (perm : segments.Perm others)
    (oppositePerm :
      (opposite.filter Segment.isFlown).Perm (otherOpposite.filter Segment.isFlown))
    (countHidden : Bool) :
    kind.holds segments opposite countHidden = kind.holds others otherOpposite countHidden := by
  cases kind with
  | nonStop => simp only [holds, perm.length_eq, Segment.stopCount_of_perm perm]
  | direct =>
      rw [Bool.eq_iff_iff, holds_direct_iff, holds_direct_iff]
      simp only [perm.mem_iff]
  | oneStop => simp only [holds, Segment.stopCount_of_perm perm]
  | multiStop => simp only [holds, Segment.stopCount_of_perm perm]
  | online => simp only [holds, perm.length_eq, Segment.carriers_of_perm perm]
  | interline => simp only [holds, Segment.carriers_of_perm perm]
  | sameFlight =>
      simp only [holds, oppositePerm.isEmpty_eq, Segment.repeatsFlight_of_perm perm,
        perm.any_eq, oppositePerm.any_eq]

end ShapeKind

/--
A shape does not depend on the order of segments, nor on segments of the other part that are not
flown.
-/
theorem ShapeConstraint.holds_of_perm
    {segments others opposite otherOpposite : List Segment}
    (constraint : ShapeConstraint)
    (perm : segments.Perm others)
    (oppositePerm :
      (opposite.filter Segment.isFlown).Perm (otherOpposite.filter Segment.isFlown)) :
    constraint.holds segments opposite = constraint.holds others otherOpposite := by
  simp only [holds, ShapeKind.holds_of_perm _ perm oppositePerm]

/-- The shape of the flown segments does not depend on their order. -/
theorem Requirement.shapeMet_of_perm
    {requirement : Requirement}
    {segments others opposite otherOpposite : List Segment}
    (perm : (segments.filter Segment.isFlown).Perm (others.filter Segment.isFlown))
    (oppositePerm :
      (opposite.filter Segment.isFlown).Perm (otherOpposite.filter Segment.isFlown)) :
    requirement.shapeMet segments opposite = requirement.shapeMet others otherOpposite := by
  unfold shapeMet
  simp only [ShapeConstraint.holds_of_perm _ perm oppositePerm]

end FlightRule
