import FlightRule.Proofs.Rule.Agreement
import FlightRule.Proofs.Rule.Final

/-!
# Tickets round the world

A ticket round the world has no way out and no way back.  So no direction counts on it, neither the
one that a rule is filed for nor those of the markets, and nothing is left for the pricing unit to
decide (`outcome_of_round_the_world`).
-/

namespace FlightRule

/-! ## Directions left out -/

/-- The itinerary without the direction of its market. -/
def Itinerary.unmarked (itinerary : Itinerary) : Itinerary :=
  { itinerary with direction := .unknown }

/-- The usage without the direction of its market. -/
def FareUsage.unmarked (usage : FareUsage) : FareUsage :=
  { usage with itinerary := usage.itinerary.unmarked }

/-- The unit without the directions of the markets. -/
def PricingUnit.unmarked (unit : PricingUnit) : PricingUnit :=
  unit.map FareUsage.unmarked

/-- The record filed for another direction. -/
def RuleRecord.withDirection (record : RuleRecord) (direction : DirectionIndicator) : RuleRecord :=
  { record with direction }

namespace CompiledRule

variable {rule : CompiledRule} {context : Context}

/-- A journey round the world has no directions. -/
theorem indicator_of_round_the_world
    (rule : CompiledRule)
    (roundTheWorld : context.roundTheWorld = true) :
    rule.indicator context = .blank := by
  rw [indicator, DirectionIndicator.effective, if_pos roundTheWorld]

/-- Where no direction counts, the direction of a market has no effect on a single fare. -/
theorem outcome_unmarked
    (noDirection : rule.indicator context = .blank)
    (itinerary : Itinerary) :
    rule.outcome context itinerary.unmarked = rule.outcome context itinerary := by
  apply outcome_congr rfl
  · rw [noDirection]
    rfl
  · exact .self fun _ _ => rfl

/-- Where no direction counts, the directions of the markets have no effect in a unit. -/
theorem outcomeInUnit_unmarked
    (noDirection : rule.indicator context = .blank)
    (unit : PricingUnit)
    (usage : FareUsage) :
    rule.outcomeInUnit context unit.unmarked usage.unmarked =
      rule.outcomeInUnit context unit usage := by
  apply outcomeInUnit_map unit usage
  · exact fun _ => rfl
  · exact fun usage => (List.map_id usage.itinerary.segments).symm
  · intro usage
    rw [noDirection]
    rfl
  · intro requirement segments opposite
    rw [List.map_id, List.map_id]

/-- Where no direction counts, nothing but a fixed outcome could be provisional. -/
theorem isFinal_outcome
    (noDirection : rule.indicator context = .blank)
    (fixedFinal : ∀ outcome, rule.demand = .fixed outcome → outcome.isFinal = true)
    (itinerary : Itinerary) :
    (rule.outcome context itinerary).isFinal = true := by
  apply isFinal_outcome_of_not_leavesOpen fixedFinal
  rintro ⟨_, provisional⟩
  rw [noDirection] at provisional
  cases provisional

/-- Without directions, usages in pricing units have final outcomes. -/
theorem isFinal_outcomeInUnit
    (noDirection : rule.indicator context = .blank)
    (fixedFinal : ∀ outcome, rule.demand = .fixed outcome → outcome.isFinal = true)
    (unit : PricingUnit)
    (usage : FareUsage) :
    (rule.outcomeInUnit context unit usage).isFinal = true := by
  rw [outcomeInUnit, isFinal_finish]
  cases demand_eq : rule.demand with
  | fixed outcome => exact fixedFinal outcome demand_eq
  | requires requirement =>
      rw [noDirection]
      exact rule.isFinal_look requirement context usage.itinerary.segments _

end CompiledRule

namespace RuleRecord

variable (record : RuleRecord) (context : Context) (vendor : String)
  (direction : DirectionIndicator)

theorem criteria_withDirection :
    (record.withDirection direction).criteria context vendor = record.criteria context vendor :=
  rfl

theorem demand_withDirection :
    (record.withDirection direction).demand context vendor = record.demand context vendor := by
  unfold demand requirement
  rw [criteria_withDirection]
  rfl

/-- Round the world, a record has the same outcomes for whatever direction it is filed. -/
theorem sameOutcomes_withDirection
    (use : RuleUse)
    (compileContext : Context)
    (roundTheWorld : context.roundTheWorld = true) :
    (record.compile use vendor compileContext).SameOutcomes context
      ((record.withDirection direction).compile use vendor compileContext) context := by
  apply CompiledRule.sameOutcomes_of_isMet
  · rfl
  · rw [CompiledRule.indicator_of_round_the_world _ roundTheWorld,
      CompiledRule.indicator_of_round_the_world _ roundTheWorld]
  · rfl
  · rfl
  · simp only [compile, demand_withDirection]
    exact .self fun _ _ _ _ _ => rfl

end RuleRecord

/--
On a ticket round the world no direction counts.  Two records that differ in nothing but the
direction they are filed for have the same outcomes, on itineraries and in pricing units that may
differ in the directions of their markets, and none of these outcomes is provisional.
-/
theorem outcome_of_round_the_world
    (record : RuleRecord)
    (use : RuleUse)
    (vendor : String)
    (compileContext context : Context)
    (roundTheWorld : context.roundTheWorld = true)
    (direction : DirectionIndicator) :
    let rule := record.compile use vendor compileContext
    let other := (record.withDirection direction).compile use vendor compileContext
    (∀ itinerary otherItinerary, itinerary.unmarked = otherItinerary.unmarked →
      rule.outcome context itinerary = other.outcome context otherItinerary ∧
        rule.outcome context itinerary ≠ .softPass) ∧
    ∀ unit otherUnit usage otherUsage,
      unit.unmarked = otherUnit.unmarked → usage.unmarked = otherUsage.unmarked →
      rule.outcomeInUnit context unit usage = other.outcomeInUnit context otherUnit otherUsage ∧
        rule.outcomeInUnit context unit usage ≠ .softPass := by
  intro rule other
  have noDirection := rule.indicator_of_round_the_world roundTheWorld
  have otherNoDirection := other.indicator_of_round_the_world roundTheWorld
  have same : rule.SameOutcomes context other context :=
    record.sameOutcomes_withDirection context vendor direction use compileContext roundTheWorld
  have fixedFinal (outcome : Outcome) (demand_eq : rule.demand = .fixed outcome) :
      outcome.isFinal = true :=
    RuleRecord.isFinal_of_demand demand_eq
  constructor
  · intro itinerary otherItinerary unmarked_eq
    constructor
    · calc rule.outcome context itinerary
        _ = rule.outcome context otherItinerary := by
          rw [← CompiledRule.outcome_unmarked noDirection itinerary, unmarked_eq,
            CompiledRule.outcome_unmarked noDirection]
        _ = other.outcome context otherItinerary := same.outcome_eq otherItinerary
    · apply Outcome.ne_softPass_of_isFinal
      exact CompiledRule.isFinal_outcome noDirection fixedFinal itinerary
  · intro unit otherUnit usage otherUsage unit_eq usage_eq
    constructor
    · calc rule.outcomeInUnit context unit usage
        _ = rule.outcomeInUnit context otherUnit otherUsage := by
          rw [← CompiledRule.outcomeInUnit_unmarked noDirection unit usage, unit_eq, usage_eq,
            CompiledRule.outcomeInUnit_unmarked noDirection]
        _ = other.outcomeInUnit context otherUnit otherUsage :=
          same.outcomeInUnit_eq otherUnit otherUsage
    · apply Outcome.ne_softPass_of_isFinal
      exact CompiledRule.isFinal_outcomeInUnit noDirection fixedFinal unit usage

/-- Flights of one carrier have to be used in some direction. -/
def carrierToward (direction : DirectionIndicator) : RuleRecord where
  vendor := "ATP"
  itemNo := 1
  application := .must
  slots := { first := .literal "DL" (-1) }
  direction

/-- A usage on the way back, by one flight of the carrier, in a market with some direction. -/
def wayBack (direction : MarketDirection) : FareUsage where
  itinerary := ⟨[.air "DL" 1 default default], direction⟩
  inbound := true

/-- A rule for the way out and a rule for both ways judge the way back alike. -/
theorem outcome_of_way_back :
    let context : Context := { roundTheWorld := true }
    let outward := (carrierToward .outbound).compile .primary "ATP" {}
    let bothWays := (carrierToward .both).compile .primary "ATP" {}
    outward.outcome context (wayBack .inbound).itinerary = .pass ∧
      bothWays.outcome context (wayBack .unknown).itinerary = .pass ∧
      outward.outcomeInUnit context ⟨[wayBack .inbound]⟩ (wayBack .inbound) = .pass ∧
      bothWays.outcomeInUnit context ⟨[wayBack .unknown]⟩ (wayBack .unknown) = .pass := by
  intro context outward bothWays
  have passes : outward.outcome context (wayBack .inbound).itinerary = .pass := by decide
  have passesInUnit :
      outward.outcomeInUnit context ⟨[wayBack .inbound]⟩ (wayBack .inbound) = .pass := by decide
  obtain ⟨same, sameInUnit⟩ :=
    outcome_of_round_the_world (carrierToward .outbound) .primary "ATP" {} context rfl .both
  refine ⟨passes, ?_, passesInUnit, ?_⟩
  · exact (same (wayBack .inbound).itinerary (wayBack .unknown).itinerary rfl).1.symm.trans passes
  · exact (sameInUnit ⟨[wayBack .inbound]⟩ ⟨[wayBack .unknown]⟩ (wayBack .inbound)
      (wayBack .unknown) rfl rfl).1.symm.trans passesInUnit

/-- On any other ticket the one fails, and the other is left to the pricing unit. -/
example :
    ((carrierToward .outbound).compile .primary "ATP" {}).outcome {} (wayBack .inbound).itinerary =
        .fail ∧
      ((carrierToward .both).compile .primary "ATP" {}).outcome {} (wayBack .unknown).itinerary =
        .softPass := by
  decide

end FlightRule
