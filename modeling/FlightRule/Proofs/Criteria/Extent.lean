import FlightRule.Proofs.Criteria.Meaning

/-!
# Where spans lie

The spans of criteria lie on flights: every segment of a span matches one of the conditions, so that
no other segment stands between the flights of a connection.  Each condition takes up one segment at
most, so that a span is no longer than there are conditions (`liesOn_of_mem_meaning`).  Without
CONNECTING every span is a single segment.
-/

namespace FlightRule

/--
A span lies on segments that match conditions: it ends at its start or behind it, every segment in
it matches one of the conditions, and it has no more segments than there are conditions.
-/
structure Span.LiesOn
    (span : Span)
    (conditions : List Condition)
    (filters : List SegmentFilter)
    (context : Context)
    (segments : List Segment) : Prop where
  start_le_stop : span.start ≤ span.stop
  matched : ∀ position, span.start ≤ position → position ≤ span.stop →
    ∃ condition ∈ conditions, Criteria.MatchesAt condition filters context segments position
  length_le : span.stop - span.start + 1 ≤ conditions.length

variable
  {filters : List SegmentFilter}
  {context : Context}
  {segments : List Segment}

namespace Span.LiesOn

variable
  {conditions others : List Condition}
  {span first next : Span}

theorem single
    {condition : Condition}
    (matched : Criteria.MatchesAt condition filters context segments span.start)
    (stop_eq : span.stop = span.start) :
    span.LiesOn [condition] filters context segments where
  start_le_stop := stop_eq.ge
  matched := fun position behind before => by
    obtain rfl : position = span.start := by omega
    exact ⟨condition, List.mem_singleton_self condition, matched⟩
  length_le := by simp [stop_eq]

theorem mono
    (lies : span.LiesOn conditions filters context segments)
    (sublist : conditions.Sublist others) :
    span.LiesOn others filters context segments where
  start_le_stop := lies.start_le_stop
  matched := fun position behind before => by
    obtain ⟨condition, member, matched⟩ := lies.matched position behind before
    exact ⟨condition, sublist.mem member, matched⟩
  length_le := lies.length_le.trans sublist.length_le

/-- Where one span goes on from another, no segment stands between them. -/
theorem join
    (firstLies : first.LiesOn conditions filters context segments)
    (nextLies : next.LiesOn others filters context segments)
    (adjoins : next.start = first.stop + 1) :
    (first.join next).LiesOn (conditions ++ others) filters context segments where
  start_le_stop := by
    have := firstLies.start_le_stop
    have := nextLies.start_le_stop
    simp only [Span.join]
    omega
  matched := fun position behind before => by
    by_cases inFirst : position ≤ first.stop
    · obtain ⟨condition, member, matched⟩ := firstLies.matched position behind inFirst
      exact ⟨condition, List.mem_append_left _ member, matched⟩
    · obtain ⟨condition, member, matched⟩ := nextLies.matched position (by omega) before
      exact ⟨condition, List.mem_append_right _ member, matched⟩
  length_le := by
    have := firstLies.start_le_stop
    have := firstLies.length_le
    have := nextLies.length_le
    simp only [Span.join, List.length_append]
    omega

/-- The last segment of a span is flown. -/
theorem exists_flown
    (lies : span.LiesOn conditions filters context segments) :
    ∃ segment, segments[span.stop]? = some segment ∧ segment.isFlown = true := by
  obtain ⟨_, _, segment, present, matched⟩ := lies.matched span.stop lies.start_le_stop le_rfl
  exact ⟨segment, present, matched.1⟩

theorem stop_lt
    (lies : span.LiesOn conditions filters context segments) :
    span.stop < segments.length := by
  obtain ⟨_, present, _⟩ := lies.exists_flown
  exact (List.getElem?_eq_some_iff.1 present).1

end Span.LiesOn

namespace Criteria

variable {criteria : Criteria} {span : Span}

/-- What criteria stand for lies on segments that match their conditions. -/
theorem liesOn_of_mem_meaning (member : span ∈ criteria.meaning filters context segments) :
    span.LiesOn criteria.conditions filters context segments := by
  induction criteria generalizing span with
  | leaf condition => exact .single member.1 member.2
  | combine relation left right leftLies rightLies =>
      have ofLeft (onLeft : span ∈ left.meaning filters context segments) :
          span.LiesOn (left.conditions ++ right.conditions) filters context segments :=
        (leftLies onLeft).mono (List.sublist_append_left _ _)
      have ofRight (onRight : span ∈ right.meaning filters context segments) :
          span.LiesOn (left.conditions ++ right.conditions) filters context segments :=
        (rightLies onRight).mono (List.sublist_append_right _ _)
      cases relation with
      | or => exact member.elim ofLeft ofRight
      | andOr => exact member.elim ofLeft ofRight
      | and => exact (mem_meaning_and.1 member).2.elim ofLeft ofRight
      | connecting =>
          obtain ⟨first, onLeft, next, onRight, adjoins, rfl⟩ := member
          exact (leftLies onLeft).join (rightLies onRight) adjoins

/-- Without CONNECTING, criteria stand for single segments. -/
theorem start_eq_stop_of_mem_meaning
    (noConnecting : criteria.hasConnecting = false)
    (member : span ∈ criteria.meaning filters context segments) :
    span.start = span.stop := by
  induction criteria with
  | leaf condition => exact member.2.symm
  | combine relation left right leftSingle rightSingle =>
      simp only [hasConnecting, Bool.or_eq_false_iff] at noConnecting
      obtain ⟨⟨notConnecting, leftNot⟩, rightNot⟩ := noConnecting
      cases relation with
      | or => exact member.elim (leftSingle leftNot) (rightSingle rightNot)
      | andOr => exact member.elim (leftSingle leftNot) (rightSingle rightNot)
      | and =>
          exact (mem_meaning_and.1 member).2.elim (leftSingle leftNot) (rightSingle rightNot)
      | connecting => simp at notConnecting

/-- Every span that criteria find lies on segments that match their conditions. -/
theorem liesOn_of_mem_spans (found : span ∈ criteria.spans filters context segments) :
    span.LiesOn criteria.conditions filters context segments :=
  liesOn_of_mem_meaning (mem_meaning_of_mem_spans found)

/--
The spans that criteria find increase strictly by start and end.  Each lies within the list, is no
longer than there are conditions, and has nothing in it but flown segments that pass all filters and
meet one of the conditions.  Without CONNECTING each is a single segment.
-/
theorem spans_lie_on_matching_segments
    (filters : List SegmentFilter)
    (context : Context)
    (segments : List Segment)
    (criteria : Criteria) :
    (criteria.spans filters context segments).Pairwise (fun first next =>
      first.start < next.start ∨ first.start = next.start ∧ first.stop < next.stop) ∧
    (∀ span ∈ criteria.spans filters context segments,
      (span.start ≤ span.stop ∧ span.stop < segments.length) ∧
      span.stop - span.start + 1 ≤ criteria.conditions.length ∧
      ∀ position, span.start ≤ position → position ≤ span.stop →
        ∃ segment, segments[position]? = some segment ∧ segment.isFlown = true ∧
          (∃ condition ∈ criteria.conditions, condition.accepts context segment = true) ∧
          ∀ filter ∈ filters, filter.accepts segment = true) ∧
    (criteria.hasConnecting = false →
      ∀ span ∈ criteria.spans filters context segments, span.start = span.stop) := by
  refine ⟨?_, fun span found => ?_, fun noConnecting span found => ?_⟩
  · exact (ascending_spans filters context segments criteria).imp Span.compare_eq_lt_iff.1
  · have lies := liesOn_of_mem_spans found
    refine ⟨⟨lies.start_le_stop, lies.stop_lt⟩, lies.length_le, fun position behind before => ?_⟩
    obtain ⟨condition, member, segment, present, flown, accepted, admitted⟩ :=
      lies.matched position behind before
    exact ⟨segment, present, flown, ⟨condition, member, accepted⟩, admitted⟩
  · exact start_eq_stop_of_mem_meaning noConnecting (mem_meaning_of_mem_spans found)

/--
Behind travel on the ground three flights connect, and the one in the middle meets a condition;
flights of two carriers wherever they are make single segments.
-/
theorem spans_of_connection_behind_ground :
    let carried (code : String) : Criteria := .leaf (.flight (.literal code .any))
    let connection := combine .connecting (combine .connecting (carried "DL") (carried "AA"))
      (carried "DL")
    let bothAnywhere := combine .and (carried "DL") (carried "AA")
    let segments : List Segment :=
      [.air "DL" 1 default default, .surface default default, .air "DL" 2 default default,
        .air "AA" 3 default default, .air "DL" 4 default default]
    (⟨2, 4⟩ ∈ connection.spans [] {} segments ∧
      ∃ segment, segments[3]? = some segment ∧ segment.isFlown = true ∧
        (∃ condition ∈ connection.conditions, condition.accepts {} segment = true) ∧
        ∀ filter ∈ ([] : List SegmentFilter), filter.accepts segment = true) ∧
    bothAnywhere.hasConnecting = false ∧
      ∀ span ∈ bothAnywhere.spans [] {} segments, span.start = span.stop := by
  intro carried connection bothAnywhere segments
  have found : ⟨2, 4⟩ ∈ connection.spans [] {} segments := by decide
  obtain ⟨_, _, matched⟩ := (spans_lie_on_matching_segments [] {} segments connection).2.1 _ found
  exact ⟨⟨found, matched 3 (by decide) (by decide)⟩, rfl,
    (spans_lie_on_matching_segments [] {} segments bothAnywhere).2.2 rfl⟩

end Criteria
end FlightRule
