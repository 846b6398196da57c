import FlightRule.Proofs.Criteria.Extent
import FlightRule.Rule.Compile

/-!
# Criteria and flown segments

Only flown segments match a condition; the others do nothing but take up positions.  So criteria
without CONNECTING find something or nothing on all lists with the same flown segments, in whatever
order (`spans_eq_nil_iff_of_sameFlown`).  CONNECTING looks at positions.  To leave out a segment
that is not flown makes its neighbours adjoin, and what adjoined before still does; so criteria that
find something still find something, unless a connection that appears in the first alternative of
an OR hides the second one from a further CONNECTING (`spans_flown_ne_nil`).
-/

namespace FlightRule

/-- The number of flown segments before a position. -/
def Segment.flownBefore (segments : List Segment) (position : Nat) : Nat :=
  (segments.take position).countP Segment.isFlown

/-- The span of the same flights in the list of flown segments. -/
def Span.onFlown (segments : List Segment) (span : Span) : Span :=
  ⟨Segment.flownBefore segments span.start, Segment.flownBefore segments span.stop⟩

namespace Segment

/-- Two lists have the same flown segments, whatever their order and number. -/
def SameFlown (segments others : List Segment) : Prop :=
  ∀ segment, segment.isFlown = true → (segment ∈ segments ↔ segment ∈ others)

variable
  {segments others : List Segment}
  {segment : Segment}
  {position : Nat}

theorem sameFlown_filter : SameFlown segments (segments.filter isFlown) := by
  intro segment flown
  rw [List.mem_filter, and_iff_left flown]

/-- Segments with the same flown segments, in whatever order, have the same flown ones. -/
theorem sameFlown_of_perm (perm : (segments.filter isFlown).Perm (others.filter isFlown)) :
    SameFlown segments others := by
  intro segment flown
  simpa [flown] using perm.mem_iff (a := segment)

/-- A flown segment keeps its place among the flown segments. -/
theorem getElem?_flownBefore
    (present : segments[position]? = some segment)
    (flown : segment.isFlown = true) :
    (segments.filter isFlown)[flownBefore segments position]? = some segment := by
  induction segments generalizing position with
  | nil => simp at present
  | cons head tail inductionHypothesis =>
      cases position with
      | zero =>
          obtain rfl : head = segment := by simpa using present
          simp [flownBefore, flown]
      | succ position =>
          have inTail := inductionHypothesis (by simpa using present)
          rw [flownBefore] at inTail
          cases headFlown : head.isFlown <;> simp [flownBefore, headFlown, inTail]

theorem flownBefore_succ
    (present : segments[position]? = some segment)
    (flown : segment.isFlown = true) :
    flownBefore segments (position + 1) = flownBefore segments position + 1 := by
  simp [flownBefore, List.take_add_one, present, flown]

end Segment

namespace Criteria

variable
  {filters : List SegmentFilter}
  {context : Context}
  {segments others : List Segment}
  {condition : Condition}
  {criteria : Criteria}
  {span : Span}

/-! ## Without CONNECTING -/

/-- A condition finds nothing where no segment matches it. -/
theorem spans_leaf_eq_nil_iff :
    (leaf condition).spans filters context segments = [] ↔
      ¬∃ segment ∈ segments, Matches condition filters context segment := by
  rw [← exists_matchesAt_iff, List.eq_nil_iff_forall_not_mem]
  constructor
  · rintro nothing ⟨position, matched⟩
    exact nothing (.single position) (mem_spans_leaf.2 ⟨matched, rfl⟩)
  · intro noMatch span found
    exact noMatch ⟨span.start, (mem_spans_leaf.1 found).1⟩

/-- A segment that matches some condition is flown, so that it is in both lists or in neither. -/
theorem exists_matches_iff_of_sameFlown
    (same : Segment.SameFlown segments others) :
    (∃ segment ∈ segments, Matches condition filters context segment) ↔
      ∃ segment ∈ others, Matches condition filters context segment := by
  refine exists_congr fun segment => and_congr_left fun matched => ?_
  exact same segment matched.1

/-- Without CONNECTING, criteria find something on all lists with the same flights or on none. -/
theorem spans_eq_nil_iff_of_sameFlown
    (noConnecting : criteria.hasConnecting = false)
    (same : Segment.SameFlown segments others) :
    criteria.spans filters context segments = [] ↔ criteria.spans filters context others = [] := by
  induction criteria with
  | leaf condition =>
      rw [spans_leaf_eq_nil_iff, spans_leaf_eq_nil_iff, exists_matches_iff_of_sameFlown same]
  | combine relation left right leftSame rightSame =>
      simp only [hasConnecting, Bool.or_eq_false_iff] at noConnecting
      obtain ⟨⟨notConnecting, leftNot⟩, rightNot⟩ := noConnecting
      cases relation with
      | or => rw [spans_or_eq_nil_iff, spans_or_eq_nil_iff, leftSame leftNot, rightSame rightNot]
      | andOr =>
          rw [spans_andOr_eq_nil_iff, spans_andOr_eq_nil_iff, leftSame leftNot, rightSame rightNot]
      | and => rw [spans_and_eq_nil_iff, spans_and_eq_nil_iff, leftSame leftNot, rightSame rightNot]
      | connecting => simp at notConnecting

/-- Criteria speak about all flights of every list with the same flights or of none. -/
theorem covers_of_sameFlown
    (same : Segment.SameFlown segments others) :
    criteria.covers filters context segments = criteria.covers filters context others := by
  rw [Bool.eq_iff_iff, covers_eq_true_iff, covers_eq_true_iff]
  refine forall_congr' fun segment => ?_
  constructor
  · intro covered member flown
    exact covered ((same segment flown).2 member) flown
  · intro covered member flown
    exact covered ((same segment flown).1 member) flown

/-! ## Leaving out what is not flown -/

theorem MatchesAt.onFlown
    {position : Nat}
    (matched : MatchesAt condition filters context segments position) :
    MatchesAt condition filters context (segments.filter Segment.isFlown)
      (Segment.flownBefore segments position) := by
  obtain ⟨segment, present, meets⟩ := matched
  exact ⟨segment, Segment.getElem?_flownBefore present meets.1, meets⟩

/-- Some OR asks for a connection in its first alternative. -/
def hasOrAfterConnecting : Criteria → Bool
  | leaf _ => false
  | combine relation left right =>
      (relation == .or && left.hasConnecting) ||
        left.hasOrAfterConnecting || right.hasOrAfterConnecting

/-- An OR that asks for a connection in its first alternative stands below a CONNECTING. -/
def hasHiddenConnection : Criteria → Bool
  | leaf _ => false
  | combine relation left right =>
      (relation == .connecting && (left.hasOrAfterConnecting || right.hasOrAfterConnecting)) ||
        left.hasHiddenConnection || right.hasHiddenConnection

/--
Every span is found again among the flown segments, if no OR asks for a connection first.  Under an
OR whose first side has no CONNECTING, what is not found there is not found among fewer segments
either.
-/
theorem onFlown_mem_spans
    (noOrAfter : criteria.hasOrAfterConnecting = false)
    (found : span ∈ criteria.spans filters context segments) :
    span.onFlown segments ∈
      criteria.spans filters context (segments.filter Segment.isFlown) := by
  induction criteria generalizing span with
  | leaf condition =>
      obtain ⟨matched, single⟩ := mem_spans_leaf.1 found
      exact mem_spans_leaf.2 ⟨matched.onFlown, congrArg (Segment.flownBefore segments) single⟩
  | combine relation left right leftKept rightKept =>
      simp only [hasOrAfterConnecting, Bool.or_eq_false_iff] at noOrAfter
      obtain ⟨⟨notAfter, leftNot⟩, rightNot⟩ := noOrAfter
      cases relation with
      | or =>
          rcases mem_spans_or.1 found with onLeft | ⟨leftNothing, onRight⟩
          · exact mem_spans_or.2 (.inl (leftKept leftNot onLeft))
          · have leftNoConnecting : left.hasConnecting = false := by simpa using notAfter
            rw [spans_eq_nil_iff_of_sameFlown leftNoConnecting Segment.sameFlown_filter]
              at leftNothing
            exact mem_spans_or.2 (.inr ⟨leftNothing, rightKept rightNot onRight⟩)
      | andOr =>
          exact mem_spans_andOr.2
            ((mem_spans_andOr.1 found).imp (leftKept leftNot) (rightKept rightNot))
      | and =>
          obtain ⟨⟨leftFinds, rightFinds⟩, onSide⟩ := mem_spans_and.1 found
          obtain ⟨first, onLeft⟩ := List.exists_mem_of_ne_nil _ leftFinds
          obtain ⟨next, onRight⟩ := List.exists_mem_of_ne_nil _ rightFinds
          exact mem_spans_and.2
            ⟨⟨List.ne_nil_of_mem (leftKept leftNot onLeft),
              List.ne_nil_of_mem (rightKept rightNot onRight)⟩,
              onSide.imp (leftKept leftNot) (rightKept rightNot)⟩
      | connecting =>
          obtain ⟨first, onLeft, next, onRight, adjoins, rfl⟩ := mem_spans_connecting.1 found
          obtain ⟨segment, present, flown⟩ := (liesOn_of_mem_spans onLeft).exists_flown
          refine mem_spans_connecting.2 ⟨first.onFlown segments, leftKept leftNot onLeft,
            next.onFlown segments, rightKept rightNot onRight, ?_, rfl⟩
          change Segment.flownBefore segments next.start = _
          rw [adjoins, Segment.flownBefore_succ present flown]
          rfl

/--
Criteria that find something still do so when the segments that are not flown are left out.  An OR
that asks for a connection first may decide for the other alternative then, which makes no
difference unless a CONNECTING goes on from there.
-/
theorem spans_flown_ne_nil
    (noHidden : criteria.hasHiddenConnection = false)
    (finds : criteria.spans filters context segments ≠ []) :
    criteria.spans filters context (segments.filter Segment.isFlown) ≠ [] := by
  induction criteria with
  | leaf condition =>
      obtain ⟨span, found⟩ := List.exists_mem_of_ne_nil _ finds
      exact List.ne_nil_of_mem (onFlown_mem_spans rfl found)
  | combine relation left right leftFinds rightFinds =>
      simp only [hasHiddenConnection, Bool.or_eq_false_iff] at noHidden
      obtain ⟨⟨notBelow, leftNot⟩, rightNot⟩ := noHidden
      cases relation with
      | or =>
          rw [Ne, spans_or_eq_nil_iff, Decidable.not_and_iff_not_or_not] at finds ⊢
          exact finds.imp (leftFinds leftNot) (rightFinds rightNot)
      | andOr =>
          rw [Ne, spans_andOr_eq_nil_iff, Decidable.not_and_iff_not_or_not] at finds ⊢
          exact finds.imp (leftFinds leftNot) (rightFinds rightNot)
      | and =>
          rw [Ne, spans_and_eq_nil_iff, not_or] at finds ⊢
          exact finds.imp (leftFinds leftNot) (rightFinds rightNot)
      | connecting =>
          have noOrAfter : (combine .connecting left right).hasOrAfterConnecting = false := by
            simpa [hasOrAfterConnecting] using notBelow
          obtain ⟨span, found⟩ := List.exists_mem_of_ne_nil _ finds
          exact List.ne_nil_of_mem (onFlown_mem_spans noOrAfter found)

/-- A connection that appears in the first alternative hides the second one. -/
example :
    let carried (code : String) : Criteria := .leaf (.flight (.literal code .any))
    let connection := combine .connecting (carried "DL") (carried "AA")
    let criteria := combine .connecting (combine .or connection (carried "BA")) (carried "UA")
    let segments : List Segment :=
      [.air "DL" 1 default default, .surface default default, .air "AA" 2 default default,
        .air "BA" 3 default default, .air "UA" 4 default default]
    criteria.hasHiddenConnection = true ∧
      criteria.spans [] {} segments = [⟨3, 4⟩] ∧
      criteria.spans [] {} (segments.filter Segment.isFlown) = [] := by
  decide

/-- In a chain of conditions, no CONNECTING goes on from an OR that asks for a connection. -/
theorem hasHiddenConnection_chain
    (first : Condition)
    (second third : Option (Relation × Condition)) :
    (chain first second third).hasHiddenConnection = false := by
  rcases second with _ | ⟨relation1, second⟩ <;> rcases third with _ | ⟨relation2, third⟩
  · rfl
  · cases relation2 <;> rfl
  · cases relation1 <;> rfl
  · cases relation1 <;> cases relation2 <;> rfl

end Criteria
end FlightRule
