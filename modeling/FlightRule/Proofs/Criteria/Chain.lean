import FlightRule.Proofs.Criteria.Meaning
import FlightRule.Rule.Compile

/-!
# Chains of conditions

The conditions of a record are chained from left to right by the relations between its slots.
Where no relation is CONNECTING, a chain stands for something exactly when the relations, read as
connectives, hold of what the single conditions find (`nonempty_meaning_chainBy_iff`).  Where some
relation is CONNECTING, a chain stands for something exactly when its conditions are met at
neighbouring positions as `Connection` says (`nonempty_meaning_chainBy_iff_connection`).
-/

namespace FlightRule

/--
The connective of a relation whose two sides may be met anywhere on the journey; without a
relation there is no second side.  CONNECTING is no such relation.
-/
def Relation.joins : Option Relation → Prop → Prop → Prop
  | none, first, _ => first
  | some .and, first, second => first ∧ second
  | some .or, first, second => first ∨ second
  | some .andOr, first, second => first ∨ second
  | some .connecting, _, _ => False

/--
What two relations, of which at least one is CONNECTING, ask of the positions at which three
conditions are met.  A CONNECTING after an OR is left open.
-/
def Connection (first second third : Nat → Prop) : Option Relation → Option Relation → Prop
  | some .connecting, none => ∃ position, first position ∧ second (position + 1)
  | none, some .connecting => ∃ position, first position ∧ third (position + 1)
  | some .and, some .connecting =>
      (∃ position, first position) ∧ ∃ position, second position ∧ third (position + 1)
  | some .connecting, some .and =>
      (∃ position, first position ∧ second (position + 1)) ∧ ∃ position, third position
  | some .connecting, some .or =>
      (∃ position, first position ∧ second (position + 1)) ∨ ∃ position, third position
  | some .connecting, some .andOr =>
      (∃ position, first position ∧ second (position + 1)) ∨ ∃ position, third position
  | some .andOr, some .connecting =>
      ∃ position, (first position ∨ second position) ∧ third (position + 1)
  | some .connecting, some .connecting =>
      ∃ position, first position ∧ second (position + 1) ∧ third (position + 2)
  | _, _ => False

/-- Connectives look at nothing but the truth of their sides, and without a relation at one side. -/
theorem Relation.joins_congr
    {relation : Option Relation}
    {first first' second second' : Prop}
    (firstIff : first ↔ first')
    (secondIff : relation.isSome = true → (second ↔ second')) :
    Relation.joins relation first second ↔ Relation.joins relation first' second' := by
  rcases relation with _ | relation
  · exact firstIff
  · rw [propext firstIff, propext (secondIff rfl)]

namespace Criteria

/-- The chain of three conditions, of which a missing relation leaves out the second or the third. -/
def chainBy
    (firstRelation secondRelation : Option Relation)
    (first second third : Condition) : Criteria :=
  chain first (firstRelation.map fun relation => (relation, second))
    (secondRelation.map fun relation => (relation, third))

/-- The criteria with one more condition, or none, joined on the right. -/
def attach (criteria : Criteria) (relation : Option Relation) (condition : Condition) : Criteria :=
  match relation with
  | none => criteria
  | some relation => combine relation criteria (leaf condition)

variable
  {filters : List SegmentFilter}
  {context : Context}
  {segments : List Segment}
  {criteria : Criteria}
  {relation firstRelation secondRelation : Option Relation}
  {condition first second third : Condition}

/-- A chain attaches its conditions one by one, except for a CONNECTING after an AND. -/
theorem chainBy_eq_attach
    (noSplit : ¬(firstRelation = some .and ∧ secondRelation = some .connecting)) :
    chainBy firstRelation secondRelation first second third =
      ((leaf first).attach firstRelation second).attach secondRelation third := by
  rcases firstRelation with _ | firstRelation <;> rcases secondRelation with _ | secondRelation
  · rfl
  · rfl
  · rfl
  · cases firstRelation with
    | and =>
        cases secondRelation with
        | connecting => exact absurd ⟨rfl, rfl⟩ noSplit
        | and => rfl
        | or => rfl
        | andOr => rfl
    | or => cases secondRelation <;> rfl
    | andOr => cases secondRelation <;> rfl
    | connecting => cases secondRelation <;> rfl

theorem conditions_attach :
    (criteria.attach relation condition).conditions =
      criteria.conditions ++ (relation.map fun _ => condition).toList := by
  cases relation <;> simp [attach, conditions]

theorem conditions_chainBy :
    (chainBy firstRelation secondRelation first second third).conditions =
      first :: (firstRelation.map fun _ => second).toList ++
        (secondRelation.map fun _ => third).toList := by
  by_cases split : firstRelation = some .and ∧ secondRelation = some .connecting
  · obtain ⟨rfl, rfl⟩ := split
    rfl
  · rw [chainBy_eq_attach split, conditions_attach, conditions_attach]
    rfl

theorem hasOr_attach :
    (criteria.attach relation condition).hasOr = (criteria.hasOr || relation == some .or) := by
  cases relation <;> simp [attach, hasOr, Bool.or_comm]

theorem hasConnecting_attach :
    (criteria.attach relation condition).hasConnecting =
      (criteria.hasConnecting || relation == some .connecting) := by
  cases relation <;> simp [attach, hasConnecting, Bool.or_comm]

theorem hasOrBelowConnecting_attach :
    (criteria.attach relation condition).hasOrBelowConnecting =
      (criteria.hasOrBelowConnecting || (relation == some .connecting && criteria.hasOr)) := by
  cases relation <;> simp [attach, hasOrBelowConnecting, hasOr, Bool.or_comm]

/-- Some two conditions of a chain have to neighbour exactly when a relation is CONNECTING. -/
theorem hasConnecting_chainBy :
    (chainBy firstRelation secondRelation first second third).hasConnecting =
      (firstRelation == some .connecting || secondRelation == some .connecting) := by
  by_cases split : firstRelation = some .and ∧ secondRelation = some .connecting
  · obtain ⟨rfl, rfl⟩ := split
    rfl
  · rw [chainBy_eq_attach split, hasConnecting_attach, hasConnecting_attach, hasConnecting,
      Bool.false_or]

/-- Only an OR that a CONNECTING follows stands below a CONNECTING. -/
theorem hasOrBelowConnecting_chainBy :
    (chainBy firstRelation secondRelation first second third).hasOrBelowConnecting =
      (secondRelation == some .connecting && firstRelation == some .or) := by
  by_cases split : firstRelation = some .and ∧ secondRelation = some .connecting
  · obtain ⟨rfl, rfl⟩ := split
    rfl
  · rw [chainBy_eq_attach split, hasOrBelowConnecting_attach, hasOrBelowConnecting_attach,
      hasOr_attach, hasOrBelowConnecting, hasOr, Bool.and_false, Bool.or_false, Bool.false_or,
      Bool.false_or]

/-- A chain without a CONNECTING after an OR finds something unless it stands for nothing. -/
theorem spans_chainBy_ne_nil_iff
    (notAfterOr : ¬(firstRelation = some .or ∧ secondRelation = some .connecting)) :
    (chainBy firstRelation secondRelation first second third).spans filters context segments ≠ [] ↔
      ((chainBy firstRelation secondRelation first second third).meaning filters context
        segments).Nonempty := by
  apply spans_ne_nil_iff
  rw [hasOrBelowConnecting_chainBy, Bool.and_eq_false_imp]
  intro connecting
  rw [beq_eq_false_iff_ne]
  exact fun afterOr => notAfterOr ⟨afterOr, eq_of_beq connecting⟩

/-! ## Without CONNECTING -/

/-- Without CONNECTING, an attached condition only has to hold of some segment. -/
theorem nonempty_meaning_attach_iff
    (notConnecting : relation ≠ some .connecting) :
    ((criteria.attach relation condition).meaning filters context segments).Nonempty ↔
      Relation.joins relation (criteria.meaning filters context segments).Nonempty
        (∃ segment ∈ segments, Matches condition filters context segment) := by
  rcases relation with _ | relation
  · rfl
  · cases relation <;>
      simp [attach, Relation.joins, Set.union_nonempty, exists_matchesAt_iff] at notConnecting ⊢

/--
Without CONNECTING, a chain stands for something when its relations hold between "some segment
matches the condition" for each of its conditions.
-/
theorem nonempty_meaning_chainBy_iff
    (firstNot : firstRelation ≠ some .connecting)
    (secondNot : secondRelation ≠ some .connecting) :
    ((chainBy firstRelation secondRelation first second third).meaning filters context
        segments).Nonempty ↔
      Relation.joins secondRelation
        (Relation.joins firstRelation
          (∃ segment ∈ segments, Matches first filters context segment)
          (∃ segment ∈ segments, Matches second filters context segment))
        (∃ segment ∈ segments, Matches third filters context segment) := by
  rw [chainBy_eq_attach fun split => secondNot split.2, nonempty_meaning_attach_iff secondNot,
    nonempty_meaning_attach_iff firstNot, nonempty_meaning_leaf, exists_matchesAt_iff]

/-! ## With CONNECTING -/

theorem mem_meaning_connecting_leaf_iff {span : Span} :
    span ∈ (combine .connecting criteria (leaf condition)).meaning filters context segments ↔
      ∃ found ∈ criteria.meaning filters context segments,
        MatchesAt condition filters context segments (found.stop + 1) ∧
          span = ⟨found.start, found.stop + 1⟩ := by
  rw [mem_meaning_connecting]
  constructor
  · rintro ⟨found, member, next, ⟨matched, single⟩, adjoins, rfl⟩
    rw [adjoins] at matched single
    exact ⟨found, member, matched, by rw [single]⟩
  · rintro ⟨found, member, matched, rfl⟩
    exact ⟨found, member, Span.single (found.stop + 1), ⟨matched, rfl⟩, rfl, rfl⟩

theorem nonempty_meaning_connecting_leaf_iff :
    ((combine .connecting criteria (leaf condition)).meaning filters context segments).Nonempty ↔
      ∃ found ∈ criteria.meaning filters context segments,
        MatchesAt condition filters context segments (found.stop + 1) := by
  constructor
  · rintro ⟨span, member⟩
    obtain ⟨found, onLeft, matched, _⟩ := mem_meaning_connecting_leaf_iff.1 member
    exact ⟨found, onLeft, matched⟩
  · rintro ⟨found, onLeft, matched⟩
    exact ⟨_, mem_meaning_connecting_leaf_iff.2 ⟨found, onLeft, matched, rfl⟩⟩

theorem exists_mem_meaning_leaf_iff {test : Span → Prop} :
    (∃ span ∈ (leaf condition).meaning filters context segments, test span) ↔
      ∃ position, MatchesAt condition filters context segments position ∧
        test ⟨position, position⟩ := by
  constructor
  · rintro ⟨⟨start, stop⟩, ⟨matched, single⟩, passes⟩
    obtain rfl : stop = start := single
    exact ⟨stop, matched, passes⟩
  · rintro ⟨position, matched, passes⟩
    exact ⟨⟨position, position⟩, ⟨matched, rfl⟩, passes⟩

theorem exists_mem_meaning_connecting_leaf_iff {test : Span → Prop} :
    (∃ span ∈ (combine .connecting criteria (leaf condition)).meaning filters context segments,
        test span) ↔
      ∃ found ∈ criteria.meaning filters context segments,
        MatchesAt condition filters context segments (found.stop + 1) ∧
          test ⟨found.start, found.stop + 1⟩ := by
  constructor
  · rintro ⟨span, member, passes⟩
    obtain ⟨found, onLeft, matched, rfl⟩ := mem_meaning_connecting_leaf_iff.1 member
    exact ⟨found, onLeft, matched, passes⟩
  · rintro ⟨found, onLeft, matched, passes⟩
    exact ⟨_, mem_meaning_connecting_leaf_iff.2 ⟨found, onLeft, matched, rfl⟩, passes⟩

/-- Two neighbouring conditions. -/
theorem nonempty_meaning_pair_iff :
    ((combine .connecting (leaf first) (leaf second)).meaning filters context segments).Nonempty ↔
      ∃ position, MatchesAt first filters context segments position ∧
        MatchesAt second filters context segments (position + 1) := by
  rw [nonempty_meaning_connecting_leaf_iff, exists_mem_meaning_leaf_iff]

/-- A chain with CONNECTING looks for its conditions at neighbouring positions. -/
theorem nonempty_meaning_chainBy_iff_connection
    (connecting : firstRelation = some .connecting ∨ secondRelation = some .connecting)
    (notAfterOr : ¬(firstRelation = some .or ∧ secondRelation = some .connecting)) :
    ((chainBy firstRelation secondRelation first second third).meaning filters context
        segments).Nonempty ↔
      Connection (MatchesAt first filters context segments)
        (MatchesAt second filters context segments) (MatchesAt third filters context segments)
        firstRelation secondRelation := by
  rcases connecting with rfl | rfl
  · rw [chainBy_eq_attach (by simp)]
    rcases secondRelation with _ | secondRelation
    · exact nonempty_meaning_pair_iff
    · cases secondRelation with
      | and =>
          simp only [attach, Connection, nonempty_meaning_and, nonempty_meaning_pair_iff,
            nonempty_meaning_leaf]
      | or =>
          simp only [attach, Connection, meaning_or, Set.union_nonempty,
            nonempty_meaning_pair_iff, nonempty_meaning_leaf]
      | andOr =>
          simp only [attach, Connection, meaning_andOr, Set.union_nonempty,
            nonempty_meaning_pair_iff, nonempty_meaning_leaf]
      | connecting =>
          simp only [attach, Connection, nonempty_meaning_connecting_leaf_iff,
            exists_mem_meaning_connecting_leaf_iff, exists_mem_meaning_leaf_iff]
  · rcases firstRelation with _ | firstRelation
    · exact nonempty_meaning_pair_iff
    · cases firstRelation with
      | and =>
          simp only [chainBy, Option.map_some, chain, Connection, nonempty_meaning_and,
            nonempty_meaning_pair_iff, nonempty_meaning_leaf]
      | or => exact absurd ⟨rfl, rfl⟩ notAfterOr
      | andOr =>
          rw [chainBy_eq_attach (by simp)]
          simp only [attach, Connection, nonempty_meaning_connecting_leaf_iff, meaning_andOr,
            Set.mem_union, or_and_right, exists_or, exists_mem_meaning_leaf_iff]
      | connecting =>
          rw [chainBy_eq_attach (by simp)]
          simp only [attach, Connection, nonempty_meaning_connecting_leaf_iff,
            exists_mem_meaning_connecting_leaf_iff, exists_mem_meaning_leaf_iff]

end Criteria
end FlightRule
