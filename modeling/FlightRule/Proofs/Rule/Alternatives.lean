import FlightRule.Proofs.Criteria.Alternatives
import FlightRule.Proofs.Rule.Connecting

/-!
# Plain rules with CONNECTING after OR

The outcome of a plain rule that joins its first two slots by OR and the third one by CONNECTING.
Wherever on the journey some segment meets the first slot, it is the first slot that has to
connect, and connections of the second slot do not count.  The same rule with AND/OR in the place of
OR counts the connections of both.
-/

namespace FlightRule
namespace RuleRecord

variable
  {record : RuleRecord}
  {tables : TableSource}
  {vendor : String}
  {context : Context}
  {segments : List Segment}
  {slot nextSlot : Slot}
  {condition next : Condition}

/-- Some segment meets the first slot, and the next segment meets the second one. -/
def Connects
    (record : RuleRecord)
    (tables : TableSource)
    (vendor : String)
    (context : Context)
    (segments : List Segment)
    (slot nextSlot : Slot) : Prop :=
  ∃ position, record.MeetsAt tables vendor context segments slot position ∧
    record.MeetsAt tables vendor context segments nextSlot (position + 1)

theorem Connects.exists_flown
    (connects : record.Connects tables vendor context segments slot nextSlot) :
    ∃ segment ∈ segments, segment.isFlown = true := by
  obtain ⟨_, ⟨segment, present, flown, _⟩, _⟩ := connects
  exact ⟨segment, List.mem_of_getElem? present, flown⟩

/-- The record with AND/OR between its first two slots. -/
def withAndOr (record : RuleRecord) : RuleRecord :=
  { record with relation1 := some .andOr }

theorem IsPlain.withAndOr (plain : record.IsPlain) : record.withAndOr.IsPlain :=
  ⟨plain.available, plain.must, plain.anyDirection, plain.anyPlace⟩

/-- The same slots count, so that nothing is missing. -/
theorem IsComplete.withAndOr
    (complete : record.IsComplete tables vendor)
    (joined : record.relation1.isSome = true) :
    record.withAndOr.IsComplete tables vendor where
  second_coded := fun _ => complete.second_coded joined
  third_coded := complete.third_coded
  tables_found := by
    obtain ⟨relation, relation_eq⟩ := Option.isSome_iff_exists.1 joined
    have sameSlots : record.withAndOr.usedSlots = record.usedSlots := by
      simp only [usedSlots, RuleRecord.withAndOr, relation_eq, Option.map_some]
    rw [sameSlots]
    exact complete.tables_found

/-! ## Criteria of slots -/

theorem finds_leaf_iff
    (stands : condition.StandsFor slot tables vendor) :
    (Criteria.leaf condition).Finds record.filters context segments ↔
      ∃ position, record.MeetsAt tables vendor context segments slot position := by
  rw [Criteria.Finds, Criteria.spans_ne_nil_iff rfl, Criteria.nonempty_meaning_leaf]
  exact exists_congr fun _ => matchesAt_iff_meetsAt stands

/-- Two conditions joined by CONNECTING find the connections of their slots. -/
theorem finds_pair_iff
    (stands : condition.StandsFor slot tables vendor)
    (nextStands : next.StandsFor nextSlot tables vendor) :
    (Criteria.combine .connecting (.leaf condition) (.leaf next)).Finds record.filters context
        segments ↔
      record.Connects tables vendor context segments slot nextSlot := by
  rw [Criteria.Finds, Criteria.spans_ne_nil_iff rfl, Criteria.nonempty_meaning_pair_iff]
  exact exists_congr fun _ =>
    and_congr (matchesAt_iff_meetsAt stands) (matchesAt_iff_meetsAt nextStands)

/-- The first two conditions are joined before the third one, unless they are joined by AND. -/
theorem Conditions.criteria_of_connecting_after
    (conditions : record.Conditions tables vendor)
    {relation : Relation}
    (notAnd : relation ≠ .and)
    (relation1_eq : record.relation1 = some relation)
    (relation2_eq : record.relation2 = some .connecting) :
    conditions.criteria =
      .combine .connecting
        (.combine relation (.leaf conditions.first) (.leaf conditions.second))
        (.leaf conditions.third) := by
  rw [criteria, relation1_eq, relation2_eq, Criteria.chainBy_eq_attach (by simpa using notAnd)]
  rfl

/--
Behind an OR, the third slot has to connect to the first one if that is met anywhere, and to either
of the two if it is not.
-/
theorem Conditions.finds_iff_of_connecting_after_or
    (conditions : record.Conditions tables vendor)
    (relation1_eq : record.relation1 = some .or)
    (relation2_eq : record.relation2 = some .connecting) :
    let connects := fun slot =>
      record.Connects tables vendor context segments slot record.slots.third
    conditions.criteria.Finds record.filters context segments ↔
      (connects record.slots.first ∨ connects record.slots.second) ∧
        ((∃ position, record.MeetsAt tables vendor context segments record.slots.first position) →
          connects record.slots.first) := by
  have first_stands := conditions.first_stands
  have second_stands := conditions.second_stands (by simp [relation1_eq])
  have third_stands := conditions.third_stands (by simp [relation2_eq])
  rw [conditions.criteria_of_connecting_after (by decide) relation1_eq relation2_eq,
    Criteria.finds_connecting_or_left_iff, finds_leaf_iff first_stands,
    finds_pair_iff first_stands third_stands, finds_pair_iff second_stands third_stands]

/-- Behind an AND/OR, the third slot has to connect to either of the two. -/
theorem Conditions.finds_iff_of_connecting_after_andOr
    (conditions : record.Conditions tables vendor)
    (relation1_eq : record.relation1 = some .andOr)
    (relation2_eq : record.relation2 = some .connecting) :
    let connects := fun slot =>
      record.Connects tables vendor context segments slot record.slots.third
    conditions.criteria.Finds record.filters context segments ↔
      connects record.slots.first ∨ connects record.slots.second := by
  have second_stands := conditions.second_stands (by simp [relation1_eq])
  have third_stands := conditions.third_stands (by simp [relation2_eq])
  rw [conditions.criteria_of_connecting_after (by decide) relation1_eq relation2_eq,
    Criteria.finds_connecting_andOr_left_iff, finds_pair_iff conditions.first_stands third_stands,
    finds_pair_iff second_stands third_stands]

end RuleRecord

/--
CONNECTING looks at every way in which a side with OR can be satisfied, but if the first alternative
is found at all, then it has to connect itself.  So a plain rule that joins two slots by OR and the
third one by CONNECTING passes on a journey where the second slot connects with the third one,
unless the first slot is met and does not connect.  With AND/OR in the place of OR it always passes
there.
-/
theorem connecting_after_or :
    (∀ (filters : List SegmentFilter) (context : Context) (segments : List Segment)
        (left right other : Criteria),
      let finds := fun criteria : Criteria => criteria.Finds filters context segments
      (finds (.combine .connecting (.combine .or left right) other) ↔
        (finds (.combine .connecting left other) ∨ finds (.combine .connecting right other)) ∧
          (finds left → finds (.combine .connecting left other))) ∧
      (finds (.combine .connecting other (.combine .or left right)) ↔
        (finds (.combine .connecting other left) ∨ finds (.combine .connecting other right)) ∧
          (finds left → finds (.combine .connecting other left)))) ∧
    ∀ (record : RuleRecord) (vendor : String) (compileContext context : Context)
        (itinerary : Itinerary),
      let outcomeOf := fun record : RuleRecord =>
        (record.compile .primary vendor compileContext).outcome context itinerary
      let meetsAt := record.MeetsAt compileContext.tables vendor context itinerary.segments
      let connects := fun slot =>
        record.Connects compileContext.tables vendor context itinerary.segments slot
          record.slots.third
      let asked := (∃ position, meetsAt record.slots.first position) → connects record.slots.first
      record.IsPlain → record.IsComplete compileContext.tables vendor →
      record.relation1 = some .or → record.relation2 = some .connecting →
      record.HasShape itinerary.segments → connects record.slots.second →
        ((outcomeOf record = .pass ↔ asked) ∧ (outcomeOf record = .fail ↔ ¬asked)) ∧
        outcomeOf record.withAndOr = .pass := by
  constructor
  · intro filters context segments left right other finds
    exact ⟨Criteria.finds_connecting_or_left_iff, Criteria.finds_connecting_or_right_iff⟩
  · intro record vendor compileContext context itinerary outcomeOf meetsAt connects asked plain
      complete relation1_eq relation2_eq shape secondConnects
    have flown := secondConnects.exists_flown
    have either : connects record.slots.first ∨ connects record.slots.second := .inr secondConnects
    constructor
    · have judged : (outcomeOf record = .pass ↔ _ ∧ _ ∧ asked) ∧ (outcomeOf record = .fail ↔ _) :=
        plain.outcome_iff_of_connecting complete (.inr relation2_eq) flown fun conditions =>
          conditions.finds_iff_of_connecting_after_or relation1_eq relation2_eq
      rwa [and_iff_right shape, and_iff_right either] at judged
    · have joined : record.relation1.isSome = true := by simp [relation1_eq]
      have passes_iff : outcomeOf record.withAndOr = .pass ↔ _ :=
        (plain.withAndOr.outcome_iff_of_connecting (complete.withAndOr joined) (.inr relation2_eq)
          flown fun conditions =>
            conditions.finds_iff_of_connecting_after_andOr rfl relation2_eq).1
      exact passes_iff.2 ⟨shape, either⟩

/-- A flight of one of two carriers has to be followed by one of a third. -/
def eitherBeforeThird : RuleRecord where
  vendor := "ATP"
  itemNo := 1
  application := .must
  slots :=
    { first := .literal "DL" (-1), second := .literal "AA" (-1), third := .literal "UA" (-1) }
  relation1 := some .or
  relation2 := some .connecting

/-- The second carrier connects, and so does the first one, though it is found only later. -/
theorem outcome_of_both_connecting :
    let itinerary : Itinerary :=
      ⟨[.air "AA" 1 default default, .air "UA" 2 default default, .air "DL" 3 default default,
        .air "UA" 4 default default], .unknown⟩
    eitherBeforeThird.IsPlain ∧ eitherBeforeThird.IsComplete (fun _ _ => none) "ATP" ∧
    eitherBeforeThird.HasShape itinerary.segments ∧
    eitherBeforeThird.Connects (fun _ _ => none) "ATP" {} itinerary.segments
      eitherBeforeThird.slots.second eitherBeforeThird.slots.third ∧
    (eitherBeforeThird.compile .primary "ATP" {}).outcome {} itinerary = .pass := by
  intro itinerary
  have plain : eitherBeforeThird.IsPlain := ⟨rfl, rfl, rfl, rfl⟩
  have complete : eitherBeforeThird.IsComplete (fun _ _ => none) "ATP" :=
    ⟨by decide, by decide, by decide⟩
  have shape : eitherBeforeThird.HasShape itinerary.segments := by decide
  have secondConnects : eitherBeforeThird.Connects (fun _ _ => none) "ATP" {} itinerary.segments
      eitherBeforeThird.slots.second eitherBeforeThird.slots.third := ⟨0, by decide, by decide⟩
  refine ⟨plain, complete, shape, secondConnects, ?_⟩
  have judged := (connecting_after_or.2 eitherBeforeThird "ATP" {} {} itinerary plain complete rfl
    rfl shape secondConnects).1
  exact judged.1.2 fun _ => ⟨2, by decide, by decide⟩

/-- Flights of three carriers. -/
def threeCarriers : List Segment :=
  [.air "DL" 1 default default, .air "AA" 2 default default, .air "UA" 3 default default]

/-- A flight of a carrier. -/
def carriedBy (code : String) : Criteria :=
  .leaf (.flight (.literal code .any))

/-- A flight of the first carrier, though it does not connect, hides one of the second that does. -/
theorem connecting_loses_second_alternative :
    ¬((Criteria.combine .connecting (.combine .or (carriedBy "DL") (carriedBy "AA"))
          (carriedBy "UA")).Finds [] {} threeCarriers ↔
        (Criteria.combine .connecting (carriedBy "DL") (carriedBy "UA")).Finds [] {}
            threeCarriers ∨
          (Criteria.combine .connecting (carriedBy "AA") (carriedBy "UA")).Finds [] {}
            threeCarriers) ∧
    ¬((Criteria.combine .connecting (carriedBy "UA")
          (.combine .or (carriedBy "DL") (carriedBy "AA"))).Finds [] {} threeCarriers.reverse ↔
        (Criteria.combine .connecting (carriedBy "UA") (carriedBy "DL")).Finds [] {}
            threeCarriers.reverse ∨
          (Criteria.combine .connecting (carriedBy "UA") (carriedBy "AA")).Finds [] {}
            threeCarriers.reverse) ∧
    eitherBeforeThird.Connects (fun _ _ => none) "ATP" {} threeCarriers
      eitherBeforeThird.slots.second eitherBeforeThird.slots.third ∧
    (eitherBeforeThird.compile .primary "ATP" {}).outcome {} ⟨threeCarriers, .unknown⟩ = .fail ∧
    (eitherBeforeThird.withAndOr.compile .primary "ATP" {}).outcome {}
      ⟨threeCarriers, .unknown⟩ = .pass := by
  exact ⟨by decide, by decide, ⟨1, by decide, by decide⟩, by decide, by decide⟩

end FlightRule
