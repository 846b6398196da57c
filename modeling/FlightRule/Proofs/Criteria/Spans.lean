import FlightRule.Criteria

/-!
# The spans that criteria find

One statement for each operator says which spans are found, in terms of the spans that its two
sides find.  Together with `Criteria.ascending_spans` they determine the list of spans, because an
ascending list is determined by its members.
-/

namespace FlightRule

theorem Span.ascending_union (left right : List Span) :
    Ordered.Ascending (Span.union left right) :=
  Ordered.ascending_ofList _

theorem Span.ascending_connect (left right : List Span) :
    Ordered.Ascending (Span.connect left right) :=
  Ordered.ascending_ofList _

@[simp] theorem Span.union_eq_nil_iff {left right : List Span} :
    Span.union left right = [] ↔ left = [] ∧ right = [] := by
  simp only [List.eq_nil_iff_forall_not_mem, Span.mem_union, not_or, forall_and]

namespace Criteria

/-! ## Matching segments -/

/-- A segment is flown, meets the condition, and passes all filters. -/
def Matches
    (condition : Condition)
    (filters : List SegmentFilter)
    (context : Context)
    (segment : Segment) : Prop :=
  segment.isFlown = true ∧ condition.accepts context segment = true ∧
    ∀ filter ∈ filters, filter.accepts segment = true

/-- The segment at a position matches. -/
def MatchesAt
    (condition : Condition)
    (filters : List SegmentFilter)
    (context : Context)
    (segments : List Segment)
    (position : Nat) : Prop :=
  ∃ segment, segments[position]? = some segment ∧ Matches condition filters context segment

variable
  {filters : List SegmentFilter}
  {context : Context}
  {segments : List Segment}
  {condition : Condition}
  {left right : Criteria}
  {span : Span}

theorem matchedBy_eq_true_iff {segment : Segment} :
    matchedBy condition filters context segment = true ↔
      Matches condition filters context segment := by
  simp [matchedBy, Matches, and_assoc]

theorem mem_positions_matchedBy {position : Nat} :
    position ∈ positions (matchedBy condition filters context) 0 segments ↔
      MatchesAt condition filters context segments position := by
  simp only [mem_positions, matchedBy_eq_true_iff, MatchesAt, Nat.zero_add]
  constructor
  · rintro ⟨offset, segment, present, matched, rfl⟩
    exact ⟨segment, present, matched⟩
  · rintro ⟨segment, present, matched⟩
    exact ⟨position, segment, present, matched, rfl⟩

/-- Some position matches exactly when some segment does. -/
theorem exists_matchesAt_iff :
    (∃ position, MatchesAt condition filters context segments position) ↔
      ∃ segment ∈ segments, Matches condition filters context segment := by
  constructor
  · rintro ⟨position, segment, present, matched⟩
    exact ⟨segment, List.mem_of_getElem? present, matched⟩
  · rintro ⟨segment, member, matched⟩
    obtain ⟨position, present⟩ := List.mem_iff_getElem?.1 member
    exact ⟨position, segment, present, matched⟩

/-! ## Members -/

@[simp] theorem mem_spans_leaf :
    span ∈ (leaf condition).spans filters context segments ↔
      MatchesAt condition filters context segments span.start ∧ span.stop = span.start := by
  rw [spans, List.mem_map]
  constructor
  · rintro ⟨position, listed, rfl⟩
    exact ⟨mem_positions_matchedBy.1 listed, rfl⟩
  · rintro ⟨matched, single⟩
    refine ⟨span.start, mem_positions_matchedBy.2 matched, ?_⟩
    cases span
    simp_all [Span.single]

/-- The right side of an OR counts only when its left side finds nothing. -/
@[simp] theorem mem_spans_or :
    span ∈ (combine .or left right).spans filters context segments ↔
      span ∈ left.spans filters context segments ∨
        left.spans filters context segments = [] ∧
          span ∈ right.spans filters context segments := by
  simp only [spans, List.isEmpty_iff]
  split
  next nothing => simp [nothing]
  next something => simp [something]

/-- AND/OR finds what either side finds. -/
@[simp] theorem mem_spans_andOr :
    span ∈ (combine .andOr left right).spans filters context segments ↔
      span ∈ left.spans filters context segments ∨
        span ∈ right.spans filters context segments := by
  simp [spans]

/-- AND finds what both sides find, where both find something. -/
@[simp] theorem mem_spans_and :
    span ∈ (combine .and left right).spans filters context segments ↔
      (left.spans filters context segments ≠ [] ∧ right.spans filters context segments ≠ []) ∧
        (span ∈ left.spans filters context segments ∨
          span ∈ right.spans filters context segments) := by
  simp only [spans, Bool.or_eq_true, List.isEmpty_iff]
  split
  next nothing =>
      rcases nothing with nothing | nothing <;> simp [nothing]
  next something =>
      rw [not_or] at something
      simp [something]

/-- CONNECTING finds the spans of one side continued by those of the other. -/
@[simp] theorem mem_spans_connecting :
    span ∈ (combine .connecting left right).spans filters context segments ↔
      ∃ first ∈ left.spans filters context segments,
        ∃ next ∈ right.spans filters context segments,
          next.start = first.stop + 1 ∧ span = ⟨first.start, next.stop⟩ := by
  simp only [spans, Span.mem_connect, Span.adjoins, Span.join, beq_iff_eq, @eq_comm _ _ span]

/-! ## Whether there are spans -/

theorem spans_or_eq_nil_iff :
    (combine .or left right).spans filters context segments = [] ↔
      left.spans filters context segments = [] ∧
        right.spans filters context segments = [] := by
  simp only [spans, List.isEmpty_iff]
  split
  next nothing => simp [nothing]
  next something => simp [something]

theorem spans_andOr_eq_nil_iff :
    (combine .andOr left right).spans filters context segments = [] ↔
      left.spans filters context segments = [] ∧
        right.spans filters context segments = [] := by
  simp [spans]

theorem spans_and_eq_nil_iff :
    (combine .and left right).spans filters context segments = [] ↔
      left.spans filters context segments = [] ∨
        right.spans filters context segments = [] := by
  simp only [spans, Bool.or_eq_true, List.isEmpty_iff]
  split
  next nothing => simp [nothing]
  next something => simp [not_or.1 something]

/-- Criteria cover the segments when every flight matches one of their conditions. -/
theorem covers_eq_true_iff {criteria : Criteria} :
    criteria.covers filters context segments = true ↔
      ∀ segment ∈ segments, segment.isFlown = true →
        ∃ condition ∈ criteria.conditions, Matches condition filters context segment := by
  simp only [covers, List.all_eq_true, Bool.or_eq_true, Bool.not_eq_true', List.any_eq_true,
    matchedBy_eq_true_iff, ← Bool.not_eq_true, ← Decidable.imp_iff_not_or]

/-! ## Order -/

theorem pairwise_positions
    {α : Type}
    (test : α → Bool)
    (first : Nat)
    (items : List α) :
    (positions test first items).Pairwise (· < ·) := by
  induction items generalizing first with
  | nil => exact .nil
  | cons head tail inductionHypothesis =>
      rw [positions]
      split
      · refine List.pairwise_cons.2 ⟨fun position listed => ?_, inductionHypothesis (first + 1)⟩
        obtain ⟨offset, _, _, _, rfl⟩ := mem_positions.1 listed
        omega
      · exact inductionHypothesis (first + 1)

/-- The spans that criteria find increase strictly, so that each is found once. -/
theorem ascending_spans
    (filters : List SegmentFilter)
    (context : Context)
    (segments : List Segment)
    (criteria : Criteria) :
    Ordered.Ascending (criteria.spans filters context segments) := by
  induction criteria with
  | leaf condition =>
      refine List.Pairwise.map Span.single (fun first second below => ?_)
        (pairwise_positions (matchedBy condition filters context) 0 segments)
      exact Span.compare_eq_lt_iff.2 (.inl below)
  | combine relation left right leftAscending rightAscending =>
      cases relation with
      | or =>
          simp only [spans]
          split
          · exact rightAscending
          · exact leftAscending
      | andOr => exact Span.ascending_union _ _
      | and =>
          simp only [spans]
          split
          · exact .nil
          · exact Span.ascending_union _ _
      | connecting => exact Span.ascending_connect _ _

end Criteria
end FlightRule
