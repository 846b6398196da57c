import Mathlib.Data.List.Forall2
import FlightRule.Criteria
import FlightRule.Requirement

/-!
# What criteria look at

Criteria look at a segment through the conditions that they join, and at nothing else.  Where two
lists meet the same conditions segment by segment, the same spans are found (`spans_congr`), and a
requirement is met by both lists or by neither (`Requirement.isMet_congr`).  The lists may be looked
at in different transactions and with different filters.
-/

namespace FlightRule

/-- Tests that agree on the items of two lists, one by one, hold of all items of both or not. -/
theorem all_congr_of_forall₂
    {α β : Type}
    {test : α → Bool}
    {otherTest : β → Bool}
    {items : List α}
    {others : List β}
    (same : List.Forall₂ (fun item other => test item = otherTest other) items others) :
    items.all test = others.all otherTest := by
  induction same with
  | nil => rfl
  | cons headSame _ tailSame => rw [List.all_cons, List.all_cons, headSame, tailSame]

namespace Criteria

/--
Two segments, each with its filters and in its transaction, match the same conditions of the
criteria, and both are flown or neither.
-/
structure SeesAlike
    (criteria : Criteria)
    (filters otherFilters : List SegmentFilter)
    (context otherContext : Context)
    (segment other : Segment) : Prop where
  flown_eq : segment.isFlown = other.isFlown
  matched_eq : ∀ condition ∈ criteria.conditions,
    matchedBy condition filters context segment =
      matchedBy condition otherFilters otherContext other

variable
  {criteria left right : Criteria}
  {relation : Relation}
  {filters otherFilters : List SegmentFilter}
  {context otherContext : Context}
  {segment other : Segment}
  {segments others : List Segment}

theorem SeesAlike.ofLeft
    (alike : (combine relation left right).SeesAlike filters otherFilters context otherContext
      segment other) :
    left.SeesAlike filters otherFilters context otherContext segment other where
  flown_eq := alike.flown_eq
  matched_eq := fun condition member =>
    alike.matched_eq condition (List.mem_append_left _ member)

theorem SeesAlike.ofRight
    (alike : (combine relation left right).SeesAlike filters otherFilters context otherContext
      segment other) :
    right.SeesAlike filters otherFilters context otherContext segment other where
  flown_eq := alike.flown_eq
  matched_eq := fun condition member =>
    alike.matched_eq condition (List.mem_append_right _ member)

theorem positions_congr
    {α β : Type}
    {test : α → Bool}
    {otherTest : β → Bool}
    {items : List α}
    {others : List β}
    (same : List.Forall₂ (fun item other => test item = otherTest other) items others)
    (first : Nat) :
    positions test first items = positions otherTest first others := by
  induction same generalizing first with
  | nil => rfl
  | cons headSame _ tailSame => rw [positions, positions, headSame, tailSame]

/-- Where the same conditions are matched, segment by segment, the same spans are found. -/
theorem spans_congr
    (same : List.Forall₂ (criteria.SeesAlike filters otherFilters context otherContext)
      segments others) :
    criteria.spans filters context segments =
      criteria.spans otherFilters otherContext others := by
  induction criteria with
  | leaf condition =>
      have matchedSame := same.imp fun _ _ alike =>
        alike.matched_eq condition List.mem_cons_self
      rw [spans, spans, positions_congr matchedSame]
  | combine relation left right leftSame rightSame =>
      simp only [spans, leftSame (same.imp fun _ _ => SeesAlike.ofLeft),
        rightSame (same.imp fun _ _ => SeesAlike.ofRight)]

/-- Where the same conditions are matched, the criteria speak about all flights of both lists. -/
theorem covers_congr
    (same : List.Forall₂ (criteria.SeesAlike filters otherFilters context otherContext)
      segments others) :
    criteria.covers filters context segments =
      criteria.covers otherFilters otherContext others := by
  apply all_congr_of_forall₂
  refine same.imp fun segment other alike => ?_
  rw [alike.flown_eq, Bool.eq_iff_iff]
  simp only [Bool.or_eq_true, List.any_eq_true]
  refine or_congr_right (exists_congr fun condition => and_congr_right fun member => ?_)
  rw [alike.matched_eq condition member]

end Criteria

namespace Requirement

/--
Two requirements, each in its transaction, see no difference between two segments: both segments
are flown or neither, they pass the filters of their requirement or not, and they meet the same
conditions.
-/
structure SeesAlike
    (requirement other : Requirement)
    (context otherContext : Context)
    (segment otherSegment : Segment) : Prop where
  flown_eq : segment.isFlown = otherSegment.isFlown
  admits_eq :
    requirement.filters.all (·.accepts segment) = other.filters.all (·.accepts otherSegment)
  accepts_eq : ∀ criteria ∈ requirement.criteria, ∀ condition ∈ criteria.conditions,
    condition.accepts context segment = condition.accepts otherContext otherSegment

variable
  {requirement other : Requirement}
  {context otherContext : Context}
  {segment otherSegment : Segment}
  {segments others opposite otherOpposite : List Segment}

theorem SeesAlike.criteria
    {criteria : Criteria}
    (alike : requirement.SeesAlike other context otherContext segment otherSegment)
    (asked : criteria ∈ requirement.criteria) :
    criteria.SeesAlike requirement.filters other.filters context otherContext segment
      otherSegment where
  flown_eq := alike.flown_eq
  matched_eq := fun condition member => by
    rw [Criteria.matchedBy, Criteria.matchedBy, alike.flown_eq, alike.admits_eq,
      alike.accepts_eq criteria asked condition member]

/-- Requirements with the same criteria that see no difference between two lists are met alike. -/
theorem isMet_congr
    (criteria_eq : requirement.criteria = other.criteria)
    (same : List.Forall₂ (requirement.SeesAlike other context otherContext) segments others)
    (shapeSame : requirement.shapeMet segments opposite = other.shapeMet others otherOpposite) :
    requirement.isMet context segments opposite =
      other.isMet otherContext others otherOpposite := by
  have criteriaSame : requirement.criteriaMet context segments =
      other.criteriaMet otherContext others := by
    unfold criteriaMet
    rw [← criteria_eq]
    cases asked : requirement.criteria with
    | none =>
        simp only [List.all_filter]
        apply all_congr_of_forall₂
        refine same.imp fun segment otherSegment alike => ?_
        rw [alike.flown_eq, alike.admits_eq]
    | some criteria =>
        have alike := same.imp fun _ _ alike => alike.criteria asked
        simp only [Criteria.spans_congr alike, Criteria.covers_congr alike]
  rw [isMet, isMet, criteriaSame, shapeSame]

/-- Two requirements ask for the same flights and shapes, and admit the same segments. -/
structure AsksSame (requirement other : Requirement) : Prop where
  criteria_eq : requirement.criteria = other.criteria
  admits_eq : ∀ segment,
    requirement.filters.all (·.accepts segment) = other.filters.all (·.accepts segment)
  shape_eq : requirement.shape = other.shape

/-- Requirements that ask for the same are met by the same segments. -/
theorem AsksSame.isMet_eq
    (same : requirement.AsksSame other)
    (context : Context)
    (segments opposite : List Segment) :
    requirement.isMet context segments opposite = other.isMet context segments opposite := by
  apply isMet_congr same.criteria_eq
  · refine List.forall₂_same.2 fun segment _ => ?_
    exact ⟨rfl, same.admits_eq segment, fun _ _ _ _ => rfl⟩
  · rw [shapeMet, shapeMet, same.shape_eq]

end Requirement
end FlightRule
