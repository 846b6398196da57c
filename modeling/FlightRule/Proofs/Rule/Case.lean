import FlightRule.Proofs.Rule.Agreement
import FlightRule.Proofs.Rule.Defects
import FlightRule.Proofs.Rule.Slots
import FlightRule.Proofs.Travel.Case

/-!
# Letter case

Codes are filed and travelled in capitals or in small letters, and it makes no difference which.
A record in small letters compiles to the same criteria, and a filter for the same equipment
(`RuleRecord.sameOutcomes_lower`); a journey in small letters meets the same requirements in the
same windows (`CompiledRule.outcome_lower`).  So codes that are alike stand for one another
throughout (`outcome_of_alike_codes`).
-/

namespace FlightRule

/-! ## Records -/

theorem CarrierPattern.ofCode_lower (code : String) : ofCode (Text.lower code) = ofCode code := by
  simp only [ofCode, Text.trim_lower, Text.lower_eq_empty_iff, Text.upper_lower]

namespace Slot

/-- The slot with its carrier in small letters. -/
def lower (slot : Slot) : Slot :=
  { slot with carrier := Text.lower slot.carrier }

variable (slot : Slot) (context : Context) (vendor : String)

@[simp] theorem isCoded_lower : slot.lower.isCoded = slot.isCoded := by
  have carrier_eq : (Text.lower slot.carrier != "") = (slot.carrier != "") := by
    rw [Bool.eq_iff_iff, bne_iff_ne, bne_iff_ne, Ne, Text.lower_eq_empty_iff]
  rw [isCoded, isCoded, lower, carrier_eq]

@[simp] theorem condition_lower :
    slot.lower.condition context vendor = slot.condition context vendor := by
  simp only [condition, lower, FlightCondition.literal, CarrierPattern.ofCode_lower]

@[simp] theorem joined_lower (relation : Option Relation) (position : Nat) :
    slot.lower.joined relation position context vendor =
      slot.joined relation position context vendor := by
  simp only [joined, isCoded_lower, condition_lower]

end Slot

/-- The slots with their carriers in small letters. -/
def Slots.lower (slots : Slots) : Slots :=
  ⟨slots.first.lower, slots.second.lower, slots.third.lower⟩

namespace RuleRecord

/-- The record with its carriers and its equipment in small letters. -/
def lower (record : RuleRecord) : RuleRecord :=
  { record with slots := record.slots.lower, equipment := Text.lower record.equipment }

variable (record : RuleRecord) (context : Context) (vendor : String)

theorem firstCondition_lower :
    record.lower.firstCondition context vendor = record.firstCondition context vendor := by
  simp only [firstCondition, lower, Slots.lower, Slot.isCoded_lower, Slot.condition_lower]

/-- The carriers of a range may be reported in another case, but its condition is the same. -/
theorem result_rangeCondition_lower :
    record.lower.rangeCondition.result = record.rangeCondition.result := by
  rw [result_rangeCondition, result_rangeCondition]
  simp only [lower, Slots.lower, Slot.lower, FlightCondition.literal, Text.trim_lower,
    CarrierPattern.ofCode_lower]

/--
What a record asks of flights does not depend on the case in which carriers are filed.  No more than
the results agree: an issue of a range quotes its carriers as they are filed.
-/
theorem result_criteria_lower :
    (record.lower.criteria context vendor).result = (record.criteria context vendor).result := by
  have reads_eq : record.lower.readsRange context.settings =
      record.readsRange context.settings := rfl
  have second_eq : record.lower.slots.second = record.slots.second.lower := rfl
  have third_eq : record.lower.slots.third = record.slots.third.lower := rfl
  rw [criteria_eq, criteria_eq, reads_eq, second_eq, third_eq, firstCondition_lower]
  simp only [Build.result_bind, apply_ite Build.result, result_rangeCondition_lower,
    Slot.joined_lower]
  rfl

/-- The filters of a record do not depend on the case in which its equipment is filed. -/
theorem all_filters_lower (segment : Segment) :
    record.lower.filters.all (·.accepts segment) = record.filters.all (·.accepts segment) := by
  rw [Bool.eq_iff_iff, List.all_eq_true, List.all_eq_true, forall_filters_accept_iff,
    forall_filters_accept_iff]
  simp only [AdmitsEquipment, AdmitsWeekday, lower, Text.trim_lower, Text.lower_eq_empty_iff,
    Text.alike_lower_right]

/-- What a record in small letters asks for is the same. -/
theorem demand_lower :
    (record.lower.demand context vendor).1.Rel Requirement.AsksSame
      (record.demand context vendor).1 := by
  have result_eq : (record.lower.requirement context vendor).result = _ :=
    record.lower.result_requirement
  rw [result_criteria_lower] at result_eq
  exact demand_rel rfl result_eq record.result_requirement fun _ =>
    ⟨rfl, record.all_filters_lower, rfl⟩

/--
A record in small letters compiles to a rule with the same outcomes.  The rules are compared part by
part, since the digests of their records differ.
-/
theorem sameOutcomes_lower (use : RuleUse) (compileContext : Context) :
    (record.lower.compile use vendor compileContext).SameOutcomes context
      (record.compile use vendor compileContext) context := by
  have direction_eq : (record.lower.compile use vendor compileContext).direction =
      (record.compile use vendor compileContext).direction := rfl
  apply CompiledRule.sameOutcomes_of_isMet
  · rfl
  · rw [CompiledRule.indicator, CompiledRule.indicator, direction_eq]
  · rfl
  · rfl
  · refine (record.demand_lower compileContext vendor).imp fun requirement other same => ?_
    exact fun inside opposite _ => same.isMet_eq context inside opposite

end RuleRecord

/-! ## Journeys -/

/-- The unit with its codes in small letters. -/
def PricingUnit.lower (unit : PricingUnit) : PricingUnit :=
  unit.map FareUsage.lower

namespace CompiledRule

variable
  {context : Context}
  (ignoresCase : context.alliances.IgnoresCase)
  (rule : CompiledRule)

include ignoresCase

theorem outcome_look_lower
    (requirement : Requirement)
    (segments opposite : List Segment) :
    (rule.look requirement context (segments.map Segment.lower)
        (opposite.map Segment.lower)).outcome =
      (rule.look requirement context segments opposite).outcome := by
  apply outcome_look_congr rfl
  · cases rule.reach with
    | nowhere => rfl
    | within scope => exact Segment.keepsPlaces_lower.window_map segments scope
  · intro window _
    rw [Window.slice_map, List.countP_map]
    rfl
  · intro window _ _
    rw [Window.slice_map, requirement.isMet_lower ignoresCase]

/-- A journey in small letters has the same outcome. -/
theorem outcome_lower (itinerary : Itinerary) :
    rule.outcome context itinerary.lower = rule.outcome context itinerary := by
  apply outcome_congr rfl
  · rfl
  · exact .self fun requirement _ =>
      rule.outcome_look_lower ignoresCase requirement itinerary.segments []

/-- A pricing unit in small letters has the same outcome. -/
theorem outcomeInUnit_lower (unit : PricingUnit) (usage : FareUsage) :
    rule.outcomeInUnit context unit.lower usage.lower = rule.outcomeInUnit context unit usage := by
  apply outcomeInUnit_map unit usage
  · exact fun _ => rfl
  · exact fun _ => rfl
  · exact fun _ => rfl
  · exact rule.outcome_look_lower ignoresCase

end CompiledRule

/--
Letter case makes no difference.  Where alliances are looked up in reference data in memory, two
records whose codes differ in the case of letters have the same outcomes, on itineraries and in
pricing units whose codes may differ in the case of letters as well.
-/
theorem outcome_of_alike_codes
    (data : ReferenceData)
    (record other : RuleRecord)
    (use : RuleUse)
    (vendor : String)
    (compileContext context : Context)
    (inMemory : context.alliances = data.alliancesOf)
    (records : record.lower = other.lower) :
    let rule := record.compile use vendor compileContext
    let otherRule := other.compile use vendor compileContext
    (∀ itinerary otherItinerary, itinerary.lower = otherItinerary.lower →
      rule.outcome context itinerary = otherRule.outcome context otherItinerary) ∧
    ∀ unit otherUnit usage otherUsage,
      unit.lower = otherUnit.lower → usage.lower = otherUsage.lower →
      rule.outcomeInUnit context unit usage =
        otherRule.outcomeInUnit context otherUnit otherUsage := by
  intro rule otherRule
  have ignoresCase : context.alliances.IgnoresCase := by
    rw [inMemory]
    exact data.ignoresCase_alliancesOf
  have lowerSame := record.sameOutcomes_lower context vendor use compileContext
  have otherLowerSame := other.sameOutcomes_lower context vendor use compileContext
  rw [records] at lowerSame
  constructor
  · intro itinerary otherItinerary itinerary_eq
    calc rule.outcome context itinerary
      _ = rule.outcome context otherItinerary := by
        rw [← rule.outcome_lower ignoresCase itinerary, itinerary_eq,
          rule.outcome_lower ignoresCase]
      _ = otherRule.outcome context otherItinerary :=
        (lowerSame.outcome_eq otherItinerary).symm.trans (otherLowerSame.outcome_eq otherItinerary)
  · intro unit otherUnit usage otherUsage unit_eq usage_eq
    calc rule.outcomeInUnit context unit usage
      _ = rule.outcomeInUnit context otherUnit otherUsage := by
        rw [← rule.outcomeInUnit_lower ignoresCase unit usage, unit_eq, usage_eq,
          rule.outcomeInUnit_lower ignoresCase]
      _ = otherRule.outcomeInUnit context otherUnit otherUsage :=
        (lowerSame.outcomeInUnit_eq otherUnit otherUsage).symm.trans
          (otherLowerSame.outcomeInUnit_eq otherUnit otherUsage)

/-- Reference data with an alliance, a table of the alliance's flights, and an airport. -/
def allianceData : ReferenceData :=
  let members := ReferenceData.addAllianceMember {} "dl" "SkyTeam"
  let withTable := members.addTable ⟨"ATP", 1, [⟨"skyteam", "", -1, 0⟩]⟩
  withTable.addGeoItem ⟨"ATP", 2, .airport "jfk", 0⟩

/-- A ticket round the world that is checked against these data. -/
def aroundInMemory : Context :=
  { Context.ofData allianceData with roundTheWorld := true }

/-- Flights of a carrier of the alliance have to be used from the airport on, with one aircraft. -/
def fromAirport (carrier equipment : String) : RuleRecord where
  vendor := "ATP"
  itemNo := 1
  application := .must
  slots := { first := .literal carrier (-1), second := .table 1 }
  relation1 := some .and
  equipment
  geo := { use := .betweenAnd, betweenItem := 2 }

/-- A flight of a carrier from an airport, with some aircraft. -/
def flightFrom (carrier airport equipment : String) : FareUsage where
  itinerary :=
    ⟨[{ Segment.air carrier 1 (.ofAirport airport "US" "1") default with equipment }], .unknown⟩
  inbound := false

/-- Codes in small letters, in capitals, and in both stand for one another. -/
theorem outcome_of_mixed_case :
    let rule := (fromAirport "dl" "77w").compile .primary "ATP" aroundInMemory
    let otherRule := (fromAirport "DL" "77W").compile .primary "ATP" aroundInMemory
    let usage := flightFrom "Dl" "Jfk" "77W"
    let otherUsage := flightFrom "dL" "JFK" "77w"
    rule.outcome aroundInMemory usage.itinerary = .pass ∧
      otherRule.outcome aroundInMemory otherUsage.itinerary = .pass ∧
      rule.outcomeInUnit aroundInMemory ⟨[usage]⟩ usage = .pass ∧
      otherRule.outcomeInUnit aroundInMemory ⟨[otherUsage]⟩ otherUsage = .pass := by
  intro rule otherRule usage otherUsage
  have passes : rule.outcome aroundInMemory usage.itinerary = .pass := by decide
  have passesInUnit : rule.outcomeInUnit aroundInMemory ⟨[usage]⟩ usage = .pass := by decide
  have records : (fromAirport "dl" "77w").lower = (fromAirport "DL" "77W").lower := by decide
  obtain ⟨same, sameInUnit⟩ :=
    outcome_of_alike_codes allianceData (fromAirport "dl" "77w") (fromAirport "DL" "77W") .primary
      "ATP" aroundInMemory aroundInMemory rfl records
  refine ⟨passes, ?_, passesInUnit, ?_⟩
  · exact (same usage.itinerary otherUsage.itinerary (by decide)).symm.trans passes
  · exact (sameInUnit ⟨[usage]⟩ ⟨[otherUsage]⟩ usage otherUsage (by decide) (by decide)).symm.trans
      passesInUnit

/-- Where alliances are kept under codes in capitals alone, a code in small letters has none. -/
example :
    let context : Context := { aroundInMemory with
      alliances := fun carrier => if carrier = "DL" then .ofList ["SKYTEAM"] else .empty }
    let rule := (fromAirport "DL" "77W").compile .primary "ATP" context
    rule.outcome context (flightFrom "DL" "JFK" "77W").itinerary = .pass ∧
      rule.outcome context (flightFrom "dl" "JFK" "77W").itinerary = .fail := by
  decide

end FlightRule
