import FlightRule.Format.Compiled
import FlightRule.Proofs.Format.Requirement
import FlightRule.Proofs.Format.Reference
import FlightRule.Proofs.Geo.Resolution
import FlightRule.Proofs.Rule.Flown

/-!
# Nesting of compiled rules

What a rule requires is never nested deep, because a record has three slots.  Where a rule applies
is nested as deep as the zones of its geographic items are, and only zones inside zones take it to
the nesting that readers refuse (`written_forms_read_back`).
-/

namespace FlightRule

open Json

/-! ## Requirements -/

theorem CarrierPattern.depth_le (pattern : CarrierPattern) : (encode pattern).depth ≤ 1 := by
  cases pattern <;> simp [encode, depth_ofFields_le_iff]

theorem FlightPattern.depth_le (pattern : FlightPattern) : (encode pattern).depth ≤ 2 := by
  cases pattern <;> simp [encode, depth_ofFields_le_iff]

theorem FlightCondition.depth_le (condition : FlightCondition) :
    (encode condition).depth ≤ 3 := by
  have carrierFits := condition.carrier.depth_le
  have operatingFits := condition.operating.depth_le
  have flightFits := condition.flight.depth_le
  refine depth_ofFields_le_iff.2 ⟨2, rfl, ?_⟩
  simp
  omega

theorem TableCondition.depth_le (condition : TableCondition) :
    (encode condition).depth ≤ 5 := by
  have rowsFit : (encode condition.rows).depth ≤ 4 := by
    refine depth_array_le_iff.2 ⟨3, rfl, ?_⟩
    rw [List.forall_mem_map]
    exact fun row _ => row.depth_le
  refine depth_ofFields_le_iff.2 ⟨4, rfl, ?_⟩
  simpa using rowsFit

theorem Condition.depth_le (condition : Condition) : (encode condition).depth ≤ 6 := by
  cases condition with
  | flight condition =>
      exact depth_form_le_iff.2 ⟨5, rfl, Nat.le_trans condition.depth_le (by decide)⟩
  | table condition => exact depth_form_le_iff.2 ⟨5, rfl, condition.depth_le⟩
  | anyFlown => exact Nat.zero_le 6

namespace Criteria

/-- A relation takes two levels. -/
theorem depth_combine_le
    {relation : Relation}
    {left right : Criteria}
    {levels : Nat}
    (leftFits : (encode left).depth ≤ levels)
    (rightFits : (encode right).depth ≤ levels) :
    (encode (combine relation left right)).depth ≤ levels + 2 := by
  refine depth_form_le_iff.2 ⟨levels + 1, rfl, depth_ofFields_le_iff.2 ⟨levels, rfl, ?_⟩⟩
  simpa using ⟨leftFits, rightFits⟩

theorem depth_leaf_le (condition : Condition) : (encode (leaf condition)).depth ≤ 7 :=
  depth_form_le_iff.2 ⟨6, rfl, condition.depth_le⟩

/-- A chain has at most one relation inside another. -/
theorem depth_chain_le
    (first : Condition)
    (second third : Option (Relation × Condition)) :
    (encode (chain first second third)).depth ≤ 11 := by
  have single (condition : Condition) : (encode (leaf condition)).depth ≤ 9 :=
    Nat.le_trans (depth_leaf_le condition) (by decide)
  have pair (relation : Relation) (left right : Condition) :
      (encode (combine relation (leaf left) (leaf right))).depth ≤ 9 :=
    depth_combine_le (depth_leaf_le left) (depth_leaf_le right)
  unfold chain
  split
  · exact Nat.le_trans (single _) (by decide)
  · exact Nat.le_trans (pair _ _ _) (by decide)
  · exact Nat.le_trans (pair _ _ _) (by decide)
  · exact depth_combine_le (single _) (pair _ _ _)
  · exact depth_combine_le (pair _ _ _) (single _)

end Criteria

theorem SegmentFilter.depth_le (filter : SegmentFilter) : (encode filter).depth ≤ 2 := by
  cases filter with
  | equipment code validity => simp [encode, depth_ofFields_le_iff]
  | days mask => simp [encode, depth_ofFields_le_iff]

theorem ShapeConstraint.depth_le (constraint : ShapeConstraint) :
    (encode constraint).depth ≤ 2 := by
  have kindsFit (kinds : List ShapeKind) : (encode kinds).depth ≤ 1 := by
    refine depth_array_le_iff.2 ⟨0, rfl, ?_⟩
    simp
  refine depth_ofFields_le_iff.2 ⟨1, rfl, ?_⟩
  simpa using ⟨kindsFit _, kindsFit _⟩

namespace Requirement

/-- A requirement has twelve levels at most, if its criteria have eleven. -/
theorem depth_le
    {requirement : Requirement}
    (criteriaFit : ∀ criteria ∈ requirement.criteria, (encode criteria).depth ≤ 11) :
    (encode requirement).depth ≤ 12 := by
  have filtersFit : (encode requirement.filters).depth ≤ 3 := by
    refine depth_array_le_iff.2 ⟨2, rfl, ?_⟩
    rw [List.forall_mem_map]
    exact fun filter _ => filter.depth_le
  have shapeFits : (encode requirement.shape).depth ≤ 2 :=
    depth_elim_le_iff.2 fun constraint _ => constraint.depth_le
  have optionFits : (encode requirement.criteria).depth ≤ 11 := depth_elim_le_iff.2 criteriaFit
  refine depth_ofFields_le_iff.2 ⟨11, rfl, ?_⟩
  simp
  omega

end Requirement

/-! ## Zones -/

namespace PlaceMatcher

mutual

/-- The number of zones around the innermost place. -/
def zoneDepth : PlaceMatcher → Nat
  | zone members => membersZoneDepth members + 1
  | _ => 0
termination_by structural matcher => matcher

/-- The number of zones around the innermost place of some matchers. -/
def membersZoneDepth : List PlaceMatcher → Nat
  | [] => 0
  | member :: members => max member.zoneDepth (membersZoneDepth members)
termination_by structural members => members

end

mutual

/-- A zone takes two levels, and any other matcher takes one. -/
theorem depth_toJson_le : ∀ matcher : PlaceMatcher,
    matcher.toJson.depth ≤ 2 * matcher.zoneDepth + 1
  | airport _ | city _ | nation _ | area _ => depth_form_le_iff.2 ⟨0, rfl, Nat.le_refl 0⟩
  | zone members => by
    have membersFit := depth_membersToJson_le members
    refine depth_form_le_iff.2 ⟨2 * membersZoneDepth members + 2, ?_, ?_⟩
    · rw [zoneDepth]
      omega
    · exact depth_array_le_iff.2 ⟨_, rfl, membersFit⟩

theorem depth_membersToJson_le : ∀ members : List PlaceMatcher,
    ∀ member ∈ membersToJson members, member.depth ≤ 2 * membersZoneDepth members + 1
  | [] => nofun
  | member :: members => by
    have memberFits := member.depth_toJson_le
    have membersFit := depth_membersToJson_le members
    rw [membersToJson, List.forall_mem_cons, membersZoneDepth]
    refine ⟨by omega, fun other isMember => ?_⟩
    have otherFits := membersFit other isMember
    omega

end

end PlaceMatcher

theorem GeoPoint.depth_le
    {point : GeoPoint}
    {zones : Nat}
    (fewZones : point.matcher.zoneDepth ≤ zones) :
    (encode point).depth ≤ 2 * zones + 2 := by
  have matcherFits : (encode point.matcher).depth ≤ 2 * point.matcher.zoneDepth + 1 :=
    point.matcher.depth_toJson_le
  have boundaryFits : (encode point.boundary).depth ≤ 1 :=
    depth_ofFields_le_iff.2 ⟨0, rfl, by simp⟩
  refine depth_ofFields_le_iff.2 ⟨2 * zones + 1, rfl, ?_⟩
  simp
  omega

theorem ScopeForm.depth_le
    {form : ScopeForm}
    {zones : Nat}
    (fewZones : ∀ point ∈ form.points, point.matcher.zoneDepth ≤ zones) :
    (encode form).depth ≤ 2 * zones + 4 := by
  have pointsFit (point : GeoPoint) (named : point ∈ form.points) :
      (encode point).depth ≤ 2 * zones + 2 :=
    GeoPoint.depth_le (fewZones point named)
  cases form with
  | whole => exact Nat.zero_le _
  | between first second =>
      refine depth_form_le_iff.2 ⟨2 * zones + 3, rfl, depth_array_le_iff.2 ⟨_, rfl, ?_⟩⟩
      simpa using ⟨pointsFit first (by simp [points]), pointsFit second (by simp [points])⟩
  | within point | startingAt point | endingAt point =>
      have pointFits := pointsFit point (by simp [points])
      exact depth_form_le_iff.2 ⟨2 * zones + 3, rfl, by omega⟩
  | through points =>
      refine depth_form_le_iff.2 ⟨2 * zones + 3, rfl, depth_array_le_iff.2 ⟨_, rfl, ?_⟩⟩
      rw [List.forall_mem_map]
      exact pointsFit

/-- A scope has five levels besides those of its zones. -/
theorem GeoScope.depth_le
    {scope : GeoScope}
    {zones : Nat}
    (fewZones : ∀ point ∈ scope.points, point.matcher.zoneDepth ≤ zones) :
    (encode scope).depth ≤ 2 * zones + 5 := by
  obtain ⟨formZones, viaZones⟩ := List.forall_mem_append.1 fewZones
  have formFits := ScopeForm.depth_le formZones
  have viaFits : (encode scope.via).depth ≤ 2 * zones + 2 :=
    depth_elim_le_iff.2 fun via named => GeoPoint.depth_le (viaZones via (by simpa using named))
  refine depth_ofFields_le_iff.2 ⟨2 * zones + 4, rfl, ?_⟩
  simp
  omega

/-! ## Compiled rules -/

namespace RuleRecord

variable (record : RuleRecord) (use : RuleUse) (context : Context) (vendor : String)

/-- A record references a geographic item with this many zones around its innermost place. -/
def HasZones (zones : Nat) : Prop :=
  ∃ number ∈ [record.geo.betweenItem, record.geo.andItem, record.geo.viaItem],
    ∃ item ∈ context.geography.item? vendor number, zones ≤ item.matcher.zoneDepth

variable {record context vendor}

/-- What a record requires is nested no deeper than a relation inside a relation makes it. -/
theorem depth_requirement_le
    {requirement : Requirement}
    (demand_eq : (record.demand context vendor).1 = .requires requirement) :
    (encode requirement).depth ≤ 12 := by
  refine Requirement.depth_le fun criteria asked => ?_
  obtain ⟨first, second, third, rfl⟩ :=
    exists_chain_of_requirement (record.result_requirement_of_demand demand_eq) asked
  exact Criteria.depth_chain_le first second third

/-- What a rule asks for has thirteen levels at most. -/
theorem depth_demand_le : (encode (record.demand context vendor).1).depth ≤ 13 := by
  cases demand_eq : (record.demand context vendor).1 with
  | fixed outcome => exact depth_form_le_iff.2 ⟨12, rfl, Nat.zero_le 12⟩
  | requires requirement =>
      exact depth_form_le_iff.2 ⟨12, rfl, depth_requirement_le demand_eq⟩

/-- A reach beyond some levels has zones that take them. -/
theorem hasZones_of_depth_reach
    {zones : Nat}
    (deep : 2 * zones + 6 < (encode (record.reach context vendor).1).depth) :
    record.HasZones context vendor (zones + 1) := by
  by_contra fewZones
  refine absurd deep (Nat.not_lt.2 ?_)
  unfold reach
  cases resolved : GeoScope.resolve context vendor record.geo with
  | error issue => exact Nat.zero_le _
  | ok scope =>
      refine depth_form_le_iff.2 ⟨2 * zones + 5, rfl, GeoScope.depth_le fun point named => ?_⟩
      obtain ⟨number, consulted, item, found, sameMatcher, _⟩ :=
        GeoScope.exists_describes_of_mem_points resolved named
      have referenced := record.geo.consulted_subset consulted
      by_contra manyZones
      rw [sameMatcher] at manyZones
      exact fewZones ⟨number, referenced, item, found, by omega⟩

end RuleRecord

/--
Requirements, scopes and reference documents are read back from their texts, if those are nested no
deeper than readers admit.  What compiled rules require is never nested that deep, and where they
apply only if one of their geographic items has zones inside zones.
-/
theorem written_forms_read_back :
    (∀ requirement : Requirement, (encode requirement).depth ≤ levelLimit →
      recordOfText? Requirement (encode requirement).text = some requirement) ∧
    (∀ scope : GeoScope, (encode scope).depth ≤ levelLimit →
      recordOfText? GeoScope (encode scope).text = some scope) ∧
    (∀ document : ReferenceDocument, (encode document).depth ≤ levelLimit →
      ReferenceDocument.ofText? (encode document).text = some document) ∧
    ∀ record use vendor context,
      let rule := RuleRecord.compile record use vendor context
      (encode rule.demand).depth < levelLimit ∧
        (levelLimit ≤ (encode rule.reach).depth → record.HasZones context vendor 61) := by
  refine ⟨recordOfText?_text, recordOfText?_text, recordOfText?_text, ?_⟩
  intro record use vendor context rule
  constructor
  · exact Nat.lt_of_le_of_lt RuleRecord.depth_demand_le (by decide)
  · intro deep
    exact RuleRecord.hasZones_of_depth_reach (Nat.lt_of_lt_of_le (by decide) deep)

/-- An airport inside some zones. -/
def airportInZones : Nat → PlaceMatcher
  | 0 => .airport "LHR"
  | zones + 1 => .zone [airportInZones zones]

/-- A document with a geographic item inside some zones. -/
def documentWithZones (zones : Nat) : ReferenceDocument where
  geoItems := [⟨"ATP", 1, airportInZones zones, 7⟩]
  tripStructures := ⟨[(7, {})], by decide⟩

/-- A carrier has to be used by way of an item. -/
def carrierByWay : RuleRecord where
  vendor := "ATP"
  itemNo := 1
  application := .must
  slots := { first := .literal "DL" (-1) }
  geo := { use := .via, viaItem := 1 }

/-- A transaction in which the item is inside some zones. -/
def contextWithZones (zones : Nat) : Context where
  geography := {
    item? := fun vendor number => some ⟨vendor, number, airportInZones zones, 0⟩
    tripStructure? := fun _ => none }

/-- With sixty zones around an airport all is read back; with sixty-one the reach is too deep. -/
theorem read_back_of_zones :
    let requirement : Requirement :=
      { criteria := some (.combine .connecting (.leaf .anyFlown) (.leaf .anyFlown))
        filters := [.days ⟨3⟩] }
    let scope : GeoScope := { form := .through [⟨airportInZones 60, {}⟩] }
    let rule := carrierByWay.compile .primary "ATP" (contextWithZones 61)
    recordOfText? Requirement (encode requirement).text = some requirement ∧
      recordOfText? GeoScope (encode scope).text = some scope ∧
      ReferenceDocument.ofText? (encode (documentWithZones 60)).text = some (documentWithZones 60) ∧
      levelLimit < (encode rule.reach).depth ∧
      carrierByWay.HasZones (contextWithZones 61) "ATP" 61 := by
  intro requirement scope rule
  have deep : levelLimit < (encode rule.reach).depth := by decide +kernel
  obtain ⟨requirementRead, scopeRead, documentRead, compiled⟩ := written_forms_read_back
  refine ⟨requirementRead requirement (by decide), scopeRead scope (by decide +kernel),
    documentRead _ (by decide +kernel), deep, ?_⟩
  exact (compiled carrierByWay .primary "ATP" (contextWithZones 61)).2 (Nat.le_of_lt deep)

end FlightRule
