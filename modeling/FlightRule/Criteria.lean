import FlightRule.Ordered.Set
import FlightRule.Match

/-!
# Criteria

A span is a run of neighbouring segments in a list, given by the positions of its first and last
segment.  Spans are ordered by their start and then by their end.

Criteria join conditions on single flights by relations.  What they find in a list of segments is
a list of spans, `Criteria.spans`; whether they speak about every flown segment is
`Criteria.covers`.
-/

namespace FlightRule

/-! ## Spans -/

/-- The segments from one position to another, both included. -/
structure Span where
  start : Nat
  stop : Nat
deriving DecidableEq, Repr, Inhabited

namespace Span

/-- The span of a single segment. -/
def single (position : Nat) : Span := ⟨position, position⟩

instance : Ord Span where
  compare left right := (compare left.start right.start).then (compare left.stop right.stop)

theorem compare_def (left right : Span) :
    compare left right = (compare left.start right.start).then (compare left.stop right.stop) :=
  rfl

/-- A span stands before another when it starts first, or starts with it and ends first. -/
theorem compare_eq_lt_iff {left right : Span} :
    compare left right = .lt ↔
      left.start < right.start ∨ left.start = right.start ∧ left.stop < right.stop := by
  rw [compare_def, Ordering.then_eq_lt, Nat.compare_eq_lt, Nat.compare_eq_eq, Nat.compare_eq_lt]

instance : Std.LawfulEqOrd Span where
  compare_self := by simp [compare_def, Std.ReflCmp.compare_self]
  eq_of_compare := by
    intro left right equal
    rw [compare_def, Ordering.then_eq_eq, Nat.compare_eq_eq, Nat.compare_eq_eq] at equal
    cases left
    cases right
    simp_all

instance : Std.TransOrd Span where
  eq_swap := by
    intro left right
    rw [compare_def, compare_def, Ordering.swap_then, ← Std.OrientedCmp.eq_swap,
      ← Std.OrientedCmp.eq_swap]
  isLE_trans := by
    intro first second third
    simp only [compare_def, Ordering.isLE_then_iff_or, Nat.compare_eq_lt, Nat.compare_eq_eq,
      Nat.isLE_compare]
    omega

/-- The span from the start of one to the end of the next. -/
def join (left right : Span) : Span := ⟨left.start, right.stop⟩

/-- The second span starts with the segment after the first. -/
def adjoins (left right : Span) : Bool := right.start == left.stop + 1

/-- The members of two lists of spans, each once, in increasing order. -/
def union (left right : List Span) : List Span :=
  Ordered.ofList (left ++ right)

/-- The joins of spans of one list with adjoining spans of another, each once, in order. -/
def connect (left right : List Span) : List Span :=
  Ordered.ofList (left.flatMap fun first =>
    (right.filter first.adjoins).map first.join)

@[simp] theorem mem_union {left right : List Span} {span : Span} :
    span ∈ union left right ↔ span ∈ left ∨ span ∈ right := by
  simp [union]

theorem mem_connect {left right : List Span} {span : Span} :
    span ∈ connect left right ↔
      ∃ first ∈ left, ∃ next ∈ right, first.adjoins next = true ∧ first.join next = span := by
  simp [connect, and_assoc]

end Span

/-! ## Criteria -/

/-- Conditions joined by relations. -/
inductive Criteria where
  | leaf (condition : Condition)
  | combine (relation : Relation) (left right : Criteria)
deriving DecidableEq, Repr

namespace Criteria

/-- Some conditions have to hold on neighbouring segments. -/
def hasConnecting : Criteria → Bool
  | leaf _ => false
  | combine relation left right =>
    relation == .connecting || left.hasConnecting || right.hasConnecting

/-- The conditions from left to right. -/
def conditions : Criteria → List Condition
  | leaf condition => [condition]
  | combine _ left right => left.conditions ++ right.conditions

/-- A segment is flown, meets the condition, and passes all filters. -/
def matchedBy
    (condition : Condition)
    (filters : List SegmentFilter)
    (context : Context)
    (segment : Segment) : Bool :=
  segment.isFlown && condition.accepts context segment && filters.all (·.accepts segment)

/-- The positions of the items of a list that meet a test, counted from `first`. -/
def positions {α : Type} (test : α → Bool) : (first : Nat) → List α → List Nat
  | _, [] => []
  | first, item :: items =>
    if test item then first :: positions test (first + 1) items
    else positions test (first + 1) items

/-- The positions are those of the items that meet the test. -/
theorem mem_positions
    {α : Type}
    {test : α → Bool}
    {items : List α}
    {first position : Nat} :
    position ∈ positions test first items ↔
      ∃ offset item, items[offset]? = some item ∧ test item = true ∧ first + offset = position := by
  induction items generalizing first with
  | nil => simp [positions]
  | cons head tail inductionHypothesis =>
    have headOrTail :
        (∃ offset item, (head :: tail)[offset]? = some item ∧ test item = true ∧
            first + offset = position) ↔
          test head = true ∧ first = position ∨
            ∃ offset item, tail[offset]? = some item ∧ test item = true ∧
              first + 1 + offset = position := by
      constructor
      · rintro ⟨_ | offset, item, found, met, reached⟩
        · cases found
          exact .inl ⟨met, reached⟩
        · exact .inr ⟨offset, item, found, met, by omega⟩
      · rintro (⟨met, reached⟩ | ⟨offset, item, found, met, reached⟩)
        · exact ⟨0, head, rfl, met, reached⟩
        · exact ⟨offset + 1, item, found, met, by omega⟩
    rw [headOrTail, positions, ← inductionHypothesis]
    split
    next met => simp [met, eq_comm]
    next unmet => simp [unmet]

/--
The spans that the criteria find.  A condition finds each segment that it matches.  OR finds what
its left side finds, or if that is nothing, what its right side finds; AND/OR finds what either
side finds, and so does AND if both sides find something.  CONNECTING finds each span of its left
side continued by an adjoining span of its right side.
-/
def spans
    (filters : List SegmentFilter)
    (context : Context)
    (segments : List Segment) : Criteria → List Span
  | leaf condition => (positions (matchedBy condition filters context) 0 segments).map Span.single
  | combine relation left right =>
    let found := left.spans filters context segments
    let other := right.spans filters context segments
    match relation with
    | .or => if found.isEmpty then other else found
    | .andOr => Span.union found other
    | .and => if found.isEmpty || other.isEmpty then [] else Span.union found other
    | .connecting => Span.connect found other

/-- Every flown segment meets some condition and passes all filters. -/
def covers
    (filters : List SegmentFilter)
    (context : Context)
    (segments : List Segment)
    (criteria : Criteria) : Bool :=
  segments.all fun segment =>
    !segment.isFlown ||
      criteria.conditions.any fun condition => matchedBy condition filters context segment

end Criteria

end FlightRule
