import Mathlib.Data.Set.Basic
import FlightRule.Proofs.Criteria.Spans

/-!
# What criteria stand for

`Criteria.meaning` is the set of spans that criteria stand for, whatever side is looked at first.
Every span that is found belongs to it.  An OR that finds something on its left does not look at
its right side, so that spans can be missing; this does not matter for the question whether there
is a span at all, unless a CONNECTING joins the spans of that OR.  Criteria without OR find exactly
what they stand for.
-/

namespace FlightRule
namespace Criteria

/--
The spans that criteria stand for.  A condition stands for each single segment that matches it;
OR and AND/OR stand for what either side stands for, and so does AND if both sides stand for
something.  CONNECTING stands for each span of its left side continued by a span of its right side
that starts with the next segment.
-/
def meaning
    (filters : List SegmentFilter)
    (context : Context)
    (segments : List Segment) : Criteria → Set Span
  | leaf condition =>
      { span | MatchesAt condition filters context segments span.start ∧ span.stop = span.start }
  | combine relation left right =>
      let found := left.meaning filters context segments
      let other := right.meaning filters context segments
      match relation with
      | .or | .andOr => found ∪ other
      | .and => { span | (found.Nonempty ∧ other.Nonempty) ∧ span ∈ found ∪ other }
      | .connecting =>
          { span | ∃ first ∈ found, ∃ next ∈ other,
              next.start = first.stop + 1 ∧ span = ⟨first.start, next.stop⟩ }

/-- Some two conditions are joined by OR. -/
def hasOr : Criteria → Bool
  | leaf _ => false
  | combine relation left right => relation == .or || left.hasOr || right.hasOr

/-- An OR stands below a CONNECTING, at whatever depth. -/
def hasOrBelowConnecting : Criteria → Bool
  | leaf _ => false
  | combine relation left right =>
      (relation == .connecting && (left.hasOr || right.hasOr)) ||
        left.hasOrBelowConnecting || right.hasOrBelowConnecting

variable
  {filters : List SegmentFilter}
  {context : Context}
  {segments : List Segment}
  {condition : Condition}
  {criteria left right : Criteria}
  {span : Span}

@[simp] theorem meaning_or :
    (combine .or left right).meaning filters context segments =
      left.meaning filters context segments ∪
        right.meaning filters context segments := rfl

@[simp] theorem meaning_andOr :
    (combine .andOr left right).meaning filters context segments =
      left.meaning filters context segments ∪
        right.meaning filters context segments := rfl

@[simp] theorem mem_meaning_and :
    span ∈ (combine .and left right).meaning filters context segments ↔
      ((left.meaning filters context segments).Nonempty ∧
        (right.meaning filters context segments).Nonempty) ∧
        (span ∈ left.meaning filters context segments ∨
          span ∈ right.meaning filters context segments) := Iff.rfl

@[simp] theorem mem_meaning_connecting :
    span ∈ (combine .connecting left right).meaning filters context segments ↔
      ∃ first ∈ left.meaning filters context segments,
        ∃ next ∈ right.meaning filters context segments,
          next.start = first.stop + 1 ∧ span = ⟨first.start, next.stop⟩ := Iff.rfl

/-! ## Whether criteria stand for something -/

@[simp] theorem nonempty_meaning_leaf :
    ((leaf condition).meaning filters context segments).Nonempty ↔
      ∃ position, MatchesAt condition filters context segments position := by
  constructor
  · rintro ⟨span, matched, _⟩
    exact ⟨span.start, matched⟩
  · rintro ⟨position, matched⟩
    exact ⟨Span.single position, matched, rfl⟩

@[simp] theorem nonempty_meaning_and :
    ((combine .and left right).meaning filters context segments).Nonempty ↔
      (left.meaning filters context segments).Nonempty ∧
        (right.meaning filters context segments).Nonempty := by
  constructor
  · rintro ⟨_, both, _⟩
    exact both
  · rintro ⟨⟨span, member⟩, other⟩
    exact ⟨span, ⟨⟨span, member⟩, other⟩, .inl member⟩

/-! ## Spans and the meaning -/

/-- Every span that criteria find is one that they stand for. -/
theorem mem_meaning_of_mem_spans
    (found : span ∈ criteria.spans filters context segments) :
    span ∈ criteria.meaning filters context segments := by
  induction criteria generalizing span with
  | leaf condition => exact mem_spans_leaf.1 found
  | combine relation left right leftSound rightSound =>
      cases relation with
      | or =>
          rcases mem_spans_or.1 found with onLeft | ⟨_, onRight⟩
          · exact .inl (leftSound onLeft)
          · exact .inr (rightSound onRight)
      | andOr =>
          rcases mem_spans_andOr.1 found with onLeft | onRight
          · exact .inl (leftSound onLeft)
          · exact .inr (rightSound onRight)
      | and =>
          obtain ⟨⟨leftFinds, rightFinds⟩, onSide⟩ := mem_spans_and.1 found
          obtain ⟨first, onLeft⟩ := List.exists_mem_of_ne_nil _ leftFinds
          obtain ⟨next, onRight⟩ := List.exists_mem_of_ne_nil _ rightFinds
          exact ⟨⟨⟨first, leftSound onLeft⟩, ⟨next, rightSound onRight⟩⟩,
            onSide.imp leftSound rightSound⟩
      | connecting =>
          obtain ⟨first, onLeft, next, onRight, adjoins, equal⟩ := mem_spans_connecting.1 found
          exact ⟨first, leftSound onLeft, next, rightSound onRight, adjoins, equal⟩

/-- Criteria that find something stand for something. -/
theorem nonempty_meaning_of_spans_ne_nil
    (finds : criteria.spans filters context segments ≠ []) :
    (criteria.meaning filters context segments).Nonempty := by
  obtain ⟨span, found⟩ := List.exists_mem_of_ne_nil _ finds
  exact ⟨span, mem_meaning_of_mem_spans found⟩

/-- Criteria without OR find every span that they stand for. -/
theorem mem_spans_of_mem_meaning
    (noOr : criteria.hasOr = false)
    (member : span ∈ criteria.meaning filters context segments) :
    span ∈ criteria.spans filters context segments := by
  induction criteria generalizing span with
  | leaf condition => exact mem_spans_leaf.2 member
  | combine relation left right leftComplete rightComplete =>
      simp only [hasOr, Bool.or_eq_false_iff] at noOr
      obtain ⟨⟨notOr, leftNoOr⟩, rightNoOr⟩ := noOr
      cases relation with
      | or => simp at notOr
      | andOr =>
          exact mem_spans_andOr.2 (member.imp (leftComplete leftNoOr) (rightComplete rightNoOr))
      | and =>
          obtain ⟨⟨⟨first, onLeft⟩, ⟨next, onRight⟩⟩, onSide⟩ := mem_meaning_and.1 member
          exact mem_spans_and.2
            ⟨⟨List.ne_nil_of_mem (leftComplete leftNoOr onLeft),
              List.ne_nil_of_mem (rightComplete rightNoOr onRight)⟩,
              onSide.imp (leftComplete leftNoOr) (rightComplete rightNoOr)⟩
      | connecting =>
          obtain ⟨first, onLeft, next, onRight, adjoins, equal⟩ :=
            mem_meaning_connecting.1 member
          exact mem_spans_connecting.2
            ⟨first, leftComplete leftNoOr onLeft, next, rightComplete rightNoOr onRight,
              adjoins, equal⟩

/--
Where no CONNECTING joins the spans of an OR, criteria find something as soon as they stand for
something.  Below a CONNECTING every span counts, and there is no OR that could leave one out.
-/
theorem spans_ne_nil_of_nonempty_meaning
    (noOrBelow : criteria.hasOrBelowConnecting = false)
    (nonempty : (criteria.meaning filters context segments).Nonempty) :
    criteria.spans filters context segments ≠ [] := by
  induction criteria with
  | leaf condition =>
      obtain ⟨span, member⟩ := nonempty
      exact List.ne_nil_of_mem (mem_spans_leaf.2 member)
  | combine relation left right leftFinds rightFinds =>
      simp only [hasOrBelowConnecting, Bool.or_eq_false_iff] at noOrBelow
      obtain ⟨⟨notConnecting, leftNoOr⟩, rightNoOr⟩ := noOrBelow
      cases relation with
      | or =>
          rw [Ne, spans_or_eq_nil_iff]
          rintro ⟨leftNothing, rightNothing⟩
          rcases Set.union_nonempty.1 nonempty with onLeft | onRight
          · exact leftFinds leftNoOr onLeft leftNothing
          · exact rightFinds rightNoOr onRight rightNothing
      | andOr =>
          rw [Ne, spans_andOr_eq_nil_iff]
          rintro ⟨leftNothing, rightNothing⟩
          rcases Set.union_nonempty.1 nonempty with onLeft | onRight
          · exact leftFinds leftNoOr onLeft leftNothing
          · exact rightFinds rightNoOr onRight rightNothing
      | and =>
          obtain ⟨onLeft, onRight⟩ := nonempty_meaning_and.1 nonempty
          rw [Ne, spans_and_eq_nil_iff]
          rintro (leftNothing | rightNothing)
          · exact leftFinds leftNoOr onLeft leftNothing
          · exact rightFinds rightNoOr onRight rightNothing
      | connecting =>
          have noOr : (combine .connecting left right).hasOr = false := by
            simpa [hasOr] using notConnecting
          obtain ⟨span, member⟩ := nonempty
          exact List.ne_nil_of_mem (mem_spans_of_mem_meaning noOr member)

/-- Where no CONNECTING joins the spans of an OR, criteria find something or stand for nothing. -/
theorem spans_ne_nil_iff
    (noOrBelow : criteria.hasOrBelowConnecting = false) :
    criteria.spans filters context segments ≠ [] ↔
      (criteria.meaning filters context segments).Nonempty :=
  ⟨nonempty_meaning_of_spans_ne_nil, spans_ne_nil_of_nonempty_meaning noOrBelow⟩

/--
What criteria find is part of what they stand for; they find nothing only where they stand for
nothing, unless a CONNECTING joins the spans of an OR; and without OR they find all that they stand
for, each span once and in increasing order.
-/
theorem spans_refine_meaning
    (filters : List SegmentFilter)
    (context : Context)
    (segments : List Segment)
    (criteria : Criteria) :
    (∀ span ∈ criteria.spans filters context segments,
      span ∈ criteria.meaning filters context segments) ∧
    (criteria.hasOrBelowConnecting = false →
      (criteria.spans filters context segments = [] ↔
        criteria.meaning filters context segments = ∅)) ∧
    (criteria.hasOr = false →
      (∀ span, span ∈ criteria.spans filters context segments ↔
        span ∈ criteria.meaning filters context segments) ∧
      Ordered.Ascending (criteria.spans filters context segments)) := by
  refine ⟨fun span found => mem_meaning_of_mem_spans found, fun noOrBelow => ?_,
    fun noOr => ⟨fun span => ?_, ascending_spans filters context segments criteria⟩⟩
  · rw [← Set.not_nonempty_iff_eq_empty, ← spans_ne_nil_iff noOrBelow, not_not]
  · exact ⟨mem_meaning_of_mem_spans, mem_spans_of_mem_meaning noOr⟩

/-- In three flights on end, a connection of any two flights stands for the two neighbouring pairs. -/
theorem meaning_of_flights_on_end :
    (combine .connecting (leaf .anyFlown) (leaf .anyFlown)).hasOrBelowConnecting = false ∧
    (combine .connecting (leaf .anyFlown) (leaf .anyFlown)).hasOr = false ∧
    (combine .connecting (leaf .anyFlown) (leaf .anyFlown)).meaning [] {}
        (List.replicate 3 (.air "DL" 1 default default)) ≠ ∅ ∧
    ∀ span, span ∈ (combine .connecting (leaf .anyFlown) (leaf .anyFlown)).meaning [] {}
        (List.replicate 3 (.air "DL" 1 default default)) ↔ span ∈ [⟨0, 1⟩, ⟨1, 2⟩] := by
  have refines := spans_refine_meaning [] {}
    (List.replicate 3 (.air "DL" 1 default default))
    (combine .connecting (leaf .anyFlown) (leaf .anyFlown))
  have spans_eq : (combine .connecting (leaf .anyFlown) (leaf .anyFlown)).spans [] {}
      (List.replicate 3 (.air "DL" 1 default default)) = [⟨0, 1⟩, ⟨1, 2⟩] := by decide
  rw [spans_eq] at refines
  refine ⟨rfl, rfl, fun nothing => ?_, fun span => ((refines.2.2 rfl).1 span).symm⟩
  exact absurd ((refines.2.1 rfl).2 nothing) (by decide)

end Criteria
end FlightRule
