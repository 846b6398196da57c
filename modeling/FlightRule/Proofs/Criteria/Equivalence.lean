import FlightRule.Proofs.Criteria.Flown
import FlightRule.Requirement

/-!
# Criteria that mean the same

Criteria of different form can find the same spans and speak about the same flights, under all
filters and in all lists of segments.  Such criteria stand for one another below every operator
(`Criteria.MeansSame.combine`), and a requirement is met with the one exactly where it is met with
the other (`Requirement.isMet_of_meansSame`).  Without criteria a requirement asks for nothing but
its filters, which is what any flight with these filters asks for, as soon as there is a flight
(`Requirement.isMet_without_criteria`).
-/

namespace FlightRule

namespace Criteria

/-- In a transaction, two criteria find the same spans and speak about the same segments. -/
structure MeansSame (context : Context) (criteria other : Criteria) : Prop where
  spans_eq : ∀ filters segments,
    criteria.spans filters context segments = other.spans filters context segments
  matched_eq : ∀ filters segment,
    (criteria.conditions.any fun condition => matchedBy condition filters context segment) =
      other.conditions.any fun condition => matchedBy condition filters context segment
  hasConnecting_eq : criteria.hasConnecting = other.hasConnecting

namespace MeansSame

variable
  {context : Context}
  {criteria other left otherLeft right otherRight : Criteria}

theorem refl (context : Context) (criteria : Criteria) : criteria.MeansSame context criteria :=
  ⟨fun _ _ => rfl, fun _ _ => rfl, rfl⟩

theorem trans
    {third : Criteria}
    (firstSame : criteria.MeansSame context other)
    (secondSame : other.MeansSame context third) :
    criteria.MeansSame context third where
  spans_eq := fun filters segments =>
    (firstSame.spans_eq filters segments).trans (secondSame.spans_eq filters segments)
  matched_eq := fun filters segment =>
    (firstSame.matched_eq filters segment).trans (secondSame.matched_eq filters segment)
  hasConnecting_eq := firstSame.hasConnecting_eq.trans secondSame.hasConnecting_eq

theorem symm (same : criteria.MeansSame context other) : other.MeansSame context criteria where
  spans_eq := fun filters segments => (same.spans_eq filters segments).symm
  matched_eq := fun filters segment => (same.matched_eq filters segment).symm
  hasConnecting_eq := same.hasConnecting_eq.symm

/-- A single condition may be exchanged for one that accepts the same segments. -/
theorem leaf
    {condition otherCondition : Condition}
    (accepts_eq : ∀ segment,
      condition.accepts context segment = otherCondition.accepts context segment) :
    (Criteria.leaf condition).MeansSame context (.leaf otherCondition) := by
  have matched_eq (filters : List SegmentFilter) :
      matchedBy condition filters context = matchedBy otherCondition filters context := by
    funext segment
    rw [matchedBy, matchedBy, accepts_eq]
  constructor
  · intro filters segments
    rw [spans, spans, matched_eq]
  · intro filters segment
    simp only [conditions, List.any_cons, List.any_nil, matched_eq]
  · rfl

/-- What means the same on both sides of an operator means the same together. -/
theorem combine
    (relation : Relation)
    (leftSame : left.MeansSame context otherLeft)
    (rightSame : right.MeansSame context otherRight) :
    (Criteria.combine relation left right).MeansSame context
      (.combine relation otherLeft otherRight) := by
  constructor
  · intro filters segments
    simp only [spans, leftSame.spans_eq, rightSame.spans_eq]
  · intro filters segment
    simp only [conditions, List.any_append, leftSame.matched_eq, rightSame.matched_eq]
  · rw [hasConnecting, hasConnecting, leftSame.hasConnecting_eq, rightSame.hasConnecting_eq]

/--
The first condition of a chain may be exchanged.  An AND before a CONNECTING joins what comes behind
it; all other relations join from left to right.
-/
theorem chain
    {first otherFirst : Condition}
    (firstSame : (Criteria.leaf first).MeansSame context (.leaf otherFirst))
    (second third : Option (Relation × Condition)) :
    (Criteria.chain first second third).MeansSame context
      (.chain otherFirst second third) := by
  rcases second with _ | ⟨relation1, second⟩ <;> rcases third with _ | ⟨relation2, third⟩
  · exact firstSame
  · exact firstSame.combine relation2 (refl context _)
  · cases relation1 <;> exact firstSame.combine _ (refl context _)
  · cases relation1 <;> cases relation2
    case and.connecting => exact firstSame.combine .and (refl context _)
    all_goals exact (firstSame.combine _ (refl context _)).combine _ (refl context _)

theorem covers_eq
    (same : criteria.MeansSame context other)
    (filters : List SegmentFilter)
    (segments : List Segment) :
    criteria.covers filters context segments = other.covers filters context segments := by
  simp only [covers, same.matched_eq]

end MeansSame

/-- To match the condition of any flight is to be flown and to pass the filters. -/
theorem matches_anyFlown_iff
    {filters : List SegmentFilter}
    {context : Context}
    {segment : Segment} :
    Matches .anyFlown filters context segment ↔
      segment.isFlown = true ∧ ∀ filter ∈ filters, filter.accepts segment = true := by
  simp [Matches, Condition.accepts]

end Criteria

namespace Requirement

variable
  {criteria other : Criteria}
  {context : Context}
  {filters : List SegmentFilter}
  {shape : Option ShapeConstraint}
  {segments : List Segment}

/-- A requirement may ask for flights in one way or in another one that means the same. -/
theorem isMet_of_meansSame
    (same : criteria.MeansSame context other)
    (segments opposite : List Segment) :
    (mk (some criteria) filters shape).isMet context segments opposite =
      (mk (some other) filters shape).isMet context segments opposite := by
  have criteriaSame : (mk (some criteria) filters shape).criteriaMet context segments =
      (mk (some other) filters shape).criteriaMet context segments := by
    simp only [criteriaMet, same.spans_eq, same.covers_eq, same.hasConnecting_eq]
  rw [isMet, isMet, criteriaSame]
  rfl

end Requirement

/--
Two criteria can stand for one another: under all filters, in all transactions and in all lists of
segments, they find the same spans and both speak about every flown segment or neither does; and a
requirement that asks for the one is met where a requirement that asks for the other is, and reports
the same spans.
-/
structure Criteria.Interchangeable (criteria other : Criteria) : Prop where
  spans_eq : ∀ filters context segments,
    criteria.spans filters context segments = other.spans filters context segments
  covers_eq : ∀ filters context segments,
    criteria.covers filters context segments = other.covers filters context segments
  isMet_eq : ∀ filters shape context segments opposite,
    (Requirement.mk (some criteria) filters shape).isMet context segments opposite =
      (Requirement.mk (some other) filters shape).isMet context segments opposite
  reported_eq : ∀ filters shape context segments,
    (Requirement.mk (some criteria) filters shape).spans context segments =
      (Requirement.mk (some other) filters shape).spans context segments

/-- Criteria that mean the same in every context can be exchanged. -/
theorem Criteria.interchangeable_of_meansSame
    {criteria other : Criteria}
    (same : ∀ context, criteria.MeansSame context other) :
    criteria.Interchangeable other where
  spans_eq := fun filters context segments => (same context).spans_eq filters segments
  covers_eq := fun filters context segments => (same context).covers_eq filters segments
  isMet_eq := fun _ _ context segments opposite =>
    Requirement.isMet_of_meansSame (same context) segments opposite
  reported_eq := fun filters _ context segments => (same context).spans_eq filters segments

namespace Requirement

variable
  {context : Context}
  {filters : List SegmentFilter}
  {shape : Option ShapeConstraint}
  {segments : List Segment}

/-- Without criteria, every flight has to pass the filters. -/
theorem criteriaMet_none_iff :
    (mk none filters shape).criteriaMet context segments = true ↔
      ∀ segment ∈ segments, segment.isFlown = true →
        Criteria.Matches .anyFlown filters context segment := by
  simp only [criteriaMet, List.all_eq_true, List.mem_filter, and_imp,
    Criteria.matches_anyFlown_iff]
  exact forall₃_congr fun segment member flown => (and_iff_right flown).symm

/-- Criteria have to find something and, without CONNECTING, to cover every flight. -/
theorem criteriaMet_some_iff {criteria : Criteria} :
    (mk (some criteria) filters shape).criteriaMet context segments = true ↔
      criteria.spans filters context segments ≠ [] ∧
        (criteria.hasConnecting = true ∨ criteria.covers filters context segments = true) := by
  simp only [criteriaMet, Bool.and_eq_true, Bool.not_eq_true', List.isEmpty_eq_false_iff,
    Bool.or_eq_true]

theorem criteriaMet_anyFlown_iff :
    (mk (some (.leaf .anyFlown)) filters shape).criteriaMet context segments = true ↔
      (∃ segment ∈ segments, Criteria.Matches .anyFlown filters context segment) ∧
        ∀ segment ∈ segments, segment.isFlown = true →
          Criteria.Matches .anyFlown filters context segment := by
  simp only [criteriaMet_some_iff, ne_eq, Criteria.spans_leaf_eq_nil_iff, Classical.not_not,
    Criteria.hasConnecting, Bool.false_eq_true, false_or, Criteria.covers_eq_true_iff,
    Criteria.conditions, List.mem_singleton, exists_eq_left]

/--
Where there is a flight, a requirement without criteria amounts to one for any flight: if all
flights pass the filters, then one does, since there is one.
-/
theorem isMet_without_criteria
    (flown : ∃ segment ∈ segments, segment.isFlown = true)
    (opposite : List Segment) :
    (mk none filters shape).isMet context segments opposite =
      (mk (some (.leaf .anyFlown)) filters shape).isMet context segments opposite := by
  have criteriaSame : (mk none filters shape).criteriaMet context segments =
      (mk (some (.leaf .anyFlown)) filters shape).criteriaMet context segments := by
    rw [Bool.eq_iff_iff, criteriaMet_none_iff, criteriaMet_anyFlown_iff]
    refine (and_iff_right_of_imp fun allMatch => ?_).symm
    obtain ⟨segment, member, segmentFlown⟩ := flown
    exact ⟨segment, member, allMatch segment member segmentFlown⟩
  rw [isMet, isMet, criteriaSame]
  rfl

end Requirement
end FlightRule
