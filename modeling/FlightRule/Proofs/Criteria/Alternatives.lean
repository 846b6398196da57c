import FlightRule.Proofs.Criteria.Spans

/-!
# Alternatives below CONNECTING

CONNECTING joins spans of its sides.  A side with AND/OR offers the spans of both alternatives, so
that there is a connection with the whole as soon as there is one with an alternative.  A side with
OR offers the spans of one alternative only, and a connection with the other one is lost.
-/

namespace FlightRule
namespace Criteria

/-- The criteria find at least one span. -/
def Finds
    (criteria : Criteria)
    (filters : List SegmentFilter)
    (context : Context)
    (segments : List Segment) : Prop :=
  criteria.spans filters context segments ≠ []

instance
    (criteria : Criteria)
    (filters : List SegmentFilter)
    (context : Context)
    (segments : List Segment) :
    Decidable (criteria.Finds filters context segments) :=
  inferInstanceAs (Decidable (_ ≠ []))

variable
  {filters : List SegmentFilter}
  {context : Context}
  {segments : List Segment}
  {left right other : Criteria}

/-- An OR is as good as the alternative that it decides for. -/
theorem spans_or :
    (combine .or left right).spans filters context segments =
      if left.Finds filters context segments then left.spans filters context segments
      else right.spans filters context segments := by
  by_cases nothing : left.spans filters context segments = []
  · simp [spans, Finds, nothing]
  · simp [spans, Finds, nothing]

/-- A connection is found where a span of one side ends just before one of the other. -/
theorem finds_connecting_iff :
    (combine .connecting left right).Finds filters context segments ↔
      ∃ first ∈ left.spans filters context segments,
        ∃ next ∈ right.spans filters context segments, next.start = first.stop + 1 := by
  constructor
  · intro finds
    obtain ⟨span, found⟩ := List.exists_mem_of_ne_nil _ finds
    obtain ⟨first, onLeft, next, onRight, adjoins, _⟩ := mem_spans_connecting.1 found
    exact ⟨first, onLeft, next, onRight, adjoins⟩
  · rintro ⟨first, onLeft, next, onRight, adjoins⟩
    exact List.ne_nil_of_mem (mem_spans_connecting.2 ⟨first, onLeft, next, onRight, adjoins, rfl⟩)

/-- Both sides of a connection are found. -/
theorem finds_of_finds_connecting
    (finds : (combine .connecting left right).Finds filters context segments) :
    left.Finds filters context segments ∧ right.Finds filters context segments := by
  obtain ⟨first, onLeft, next, onRight, _⟩ := finds_connecting_iff.1 finds
  exact ⟨List.ne_nil_of_mem onLeft, List.ne_nil_of_mem onRight⟩

/-! ## AND/OR -/

/-- CONNECTING after an AND/OR connects what either side of the AND/OR finds. -/
theorem finds_connecting_andOr_left_iff :
    (combine .connecting (combine .andOr left right) other).Finds filters context segments ↔
      (combine .connecting left other).Finds filters context segments ∨
        (combine .connecting right other).Finds filters context segments := by
  simp only [finds_connecting_iff, mem_spans_andOr, or_and_right, exists_or]

/-! ## OR -/

/-- A choice between two cases, when nothing but the decision leads to the first one. -/
theorem ite_iff_or_and
    {decision first second : Prop}
    [Decidable decision]
    (needed : first → decision) :
    (if decision then first else second) ↔ (first ∨ second) ∧ (decision → first) := by
  by_cases decided : decision
  · simpa [decided] using Or.inl
  · have notFirst : ¬first := mt needed decided
    simp [decided, notFirst]

/--
CONNECTING after an OR looks at both alternatives, but if the first one is found, then it has to
connect itself.
-/
theorem finds_connecting_or_left_iff :
    (combine .connecting (combine .or left right) other).Finds filters context segments ↔
      ((combine .connecting left other).Finds filters context segments ∨
        (combine .connecting right other).Finds filters context segments) ∧
      (left.Finds filters context segments →
        (combine .connecting left other).Finds filters context segments) := by
  rw [← ite_iff_or_and fun finds => (finds_of_finds_connecting finds).1, finds_connecting_iff,
    spans_or]
  split <;> exact finds_connecting_iff.symm

/-- CONNECTING before an OR looks at both alternatives as well, under the same condition. -/
theorem finds_connecting_or_right_iff :
    (combine .connecting other (combine .or left right)).Finds filters context segments ↔
      ((combine .connecting other left).Finds filters context segments ∨
        (combine .connecting other right).Finds filters context segments) ∧
      (left.Finds filters context segments →
        (combine .connecting other left).Finds filters context segments) := by
  rw [← ite_iff_or_and fun finds => (finds_of_finds_connecting finds).2, finds_connecting_iff,
    spans_or]
  split <;> exact finds_connecting_iff.symm

end Criteria
end FlightRule
