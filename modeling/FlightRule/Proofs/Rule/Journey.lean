import FlightRule.Proofs.Rule.Plain

/-!
# Plain rules without CONNECTING

The outcome of a plain rule without CONNECTING, read off the record and the journey: the relations
between its slots are connectives, every flown segment has to meet one of the slots that count,
and the journey needs the shape that the record asks for.
-/

namespace FlightRule

/-- One of the items of a chain passes a test: the first, or one that a relation joins to it. -/
theorem exists_mem_joined_iff
    {α : Type}
    {test : α → Prop}
    {first second third : α}
    {firstRelation secondRelation : Option Relation} :
    (∃ item ∈ first :: (firstRelation.map fun _ => second).toList ++
        (secondRelation.map fun _ => third).toList, test item) ↔
      test first ∨ (firstRelation.isSome = true ∧ test second) ∨
        (secondRelation.isSome = true ∧ test third) := by
  cases firstRelation <;> cases secondRelation <;> simp

namespace RuleRecord

variable
  {record : RuleRecord}
  {tables : TableSource}
  {vendor : String}
  {context : Context}
  {segments : List Segment}

/-- The criteria of a record speak about every flown segment when each meets a slot that counts. -/
theorem Conditions.covers_iff (conditions : record.Conditions tables vendor) :
    conditions.criteria.covers record.filters context segments = true ↔
      ∀ segment ∈ segments, segment.isFlown = true →
        ∃ slot ∈ record.usedSlots, record.Meets tables vendor context slot segment := by
  rw [Criteria.covers_eq_true_iff, criteria, Criteria.conditions_chainBy]
  refine forall₂_congr fun segment _ => imp_congr_right fun _ => ?_
  rw [usedSlots, exists_mem_joined_iff, exists_mem_joined_iff]
  refine or_congr (matches_iff_meets conditions.first_stands) (or_congr ?_ ?_)
  · apply and_congr_right
    intro joined
    exact matches_iff_meets (conditions.second_stands joined)
  · apply and_congr_right
    intro joined
    exact matches_iff_meets (conditions.third_stands joined)

/-- Some segment matches a condition exactly when some segment meets the slot it stands for. -/
theorem exists_matches_iff_exists_meets
    {condition : Condition}
    {slot : Slot}
    (stands : condition.StandsFor slot tables vendor) :
    (∃ segment ∈ segments, Criteria.Matches condition record.filters context segment) ↔
      ∃ segment ∈ segments, record.Meets tables vendor context slot segment := by
  apply exists_congr
  intro segment
  rw [matches_iff_meets stands]

/-- Without CONNECTING, criteria find something when the relations hold of what the slots find. -/
theorem Conditions.spans_ne_nil_iff_joins
    (conditions : record.Conditions tables vendor)
    (firstNot : record.relation1 ≠ some .connecting)
    (secondNot : record.relation2 ≠ some .connecting) :
    conditions.criteria.spans record.filters context segments ≠ [] ↔
      Relation.joins record.relation2
        (Relation.joins record.relation1
          (∃ segment ∈ segments, record.Meets tables vendor context record.slots.first segment)
          (∃ segment ∈ segments, record.Meets tables vendor context record.slots.second segment))
        (∃ segment ∈ segments, record.Meets tables vendor context record.slots.third segment) := by
  rw [criteria, Criteria.spans_chainBy_ne_nil_iff fun afterOr => secondNot afterOr.2,
    Criteria.nonempty_meaning_chainBy_iff firstNot secondNot]
  apply Relation.joins_congr
  · apply Relation.joins_congr
    · exact exists_matches_iff_exists_meets conditions.first_stands
    · intro joined
      exact exists_matches_iff_exists_meets (conditions.second_stands joined)
  · intro joined
    exact exists_matches_iff_exists_meets (conditions.third_stands joined)

end RuleRecord

/--
Without CONNECTING, a plain rule passes where the relations of its record, as connectives, hold of
what its slots find, every flown segment meets a slot that counts, and the journey has the shape.
It fails elsewhere.  A slot behind an OR counts for the flown segments even where the OR does not
look at it.
-/
theorem outcome_without_connecting
    (record : RuleRecord)
    (vendor : String)
    (compileContext context : Context)
    (itinerary : Itinerary)
    (plain : record.IsPlain)
    (complete : record.IsComplete compileContext.tables vendor)
    (firstNot : record.relation1 ≠ some .connecting)
    (secondNot : record.relation2 ≠ some .connecting)
    (flown : ∃ segment ∈ itinerary.segments, segment.isFlown = true) :
    let outcome := (record.compile .primary vendor compileContext).outcome context itinerary
    let meets := record.Meets compileContext.tables vendor context
    let finds (slot : Slot) := ∃ segment ∈ itinerary.segments, meets slot segment
    let asked :=
      Relation.joins record.relation2
          (Relation.joins record.relation1 (finds record.slots.first) (finds record.slots.second))
          (finds record.slots.third) ∧
        (∀ segment ∈ itinerary.segments, segment.isFlown = true →
          ∃ slot ∈ record.usedSlots, meets slot segment) ∧
        record.HasShape itinerary.segments
    (outcome = .pass ↔ asked) ∧ (outcome = .fail ↔ ¬asked) := by
  intro outcome meets finds asked
  apply plain.outcome_iff complete flown
  intro conditions
  have notConnecting : conditions.criteria.hasConnecting = false := by
    rw [RuleRecord.Conditions.criteria, Criteria.hasConnecting_chainBy]
    simp [firstNot, secondNot]
  rw [RuleRecord.isMet_requirementOf_iff, notConnecting, conditions.covers_iff,
    conditions.spans_ne_nil_iff_joins firstNot secondNot, Bool.false_eq_true, false_or, and_assoc]

/-- Flights of two carriers have to be used, and no flights of others. -/
def twoCarriers : RuleRecord where
  vendor := "ATP"
  itemNo := 1
  application := .must
  slots := { first := .literal "DL" (-1), second := .literal "AA" (-1) }
  relation1 := some .and

/-- A journey by both carriers passes, also with travel on the ground; a third carrier fails. -/
theorem outcome_of_two_carriers :
    twoCarriers.IsPlain ∧ twoCarriers.IsComplete (fun _ _ => none) "ATP" ∧
    (twoCarriers.compile .primary "ATP" {}).outcome {}
        ⟨[.air "DL" 1 default default, .surface default default, .air "AA" 2 default default],
          .unknown⟩ = .pass ∧
    (twoCarriers.compile .primary "ATP" {}).outcome {}
        ⟨[.air "DL" 1 default default, .air "AA" 2 default default, .air "UA" 3 default default],
          .unknown⟩ = .fail := by
  have plain : twoCarriers.IsPlain := ⟨rfl, rfl, rfl, rfl⟩
  have complete : twoCarriers.IsComplete (fun _ _ => none) "ATP" :=
    ⟨by decide, by decide, by decide⟩
  refine ⟨plain, complete, ?_, ?_⟩
  · refine (outcome_without_connecting twoCarriers "ATP" {} {} _ plain complete (by decide)
      (by decide) (by decide)).1.2 ⟨⟨?_, ?_⟩, ?_, ?_⟩
    · decide
    · decide
    · decide
    · decide
  · refine (outcome_without_connecting twoCarriers "ATP" {} {} _ plain complete (by decide)
      (by decide) (by decide)).2.2 fun asked => ?_
    have covered := asked.2.1 (.air "UA" 3 default default)
    exact absurd (covered (by decide) rfl) (by decide)

end FlightRule
