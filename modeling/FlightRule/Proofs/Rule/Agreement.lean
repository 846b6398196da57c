import FlightRule.Proofs.Direction.Joint
import FlightRule.Proofs.Rule.Witness

/-!
# Evaluations that agree

Two evaluations may differ in the rule, in the transaction, and in the journey.  They have one
outcome where the rules are used alike, the directions decide alike, and what the rules find is the
same: on a single fare (`CompiledRule.outcome_congr`), and usage by usage in a pricing unit
(`CompiledRule.outcomeInUnit_congr`).  What two rules find is the same where they have the same
window, and their requirements are met alike inside it (`CompiledRule.outcome_look_congr`).  Two
cases come up again and again: rules with one reach whose requirements are met alike on all journeys
(`CompiledRule.sameOutcomes_of_isMet`), and one rule on a unit whose usages are changed one by one
(`CompiledRule.outcomeInUnit_map`).
-/

namespace FlightRule

/-- Two demands have the same fixed outcome, or they have requirements that are related. -/
inductive Demand.Rel (related : Requirement → Requirement → Prop) : Demand → Demand → Prop where
  | fixed (outcome : Outcome) : Rel related (.fixed outcome) (.fixed outcome)
  | requires {requirement other : Requirement} (same : related requirement other) :
      Rel related (.requires requirement) (.requires other)

theorem Demand.Rel.imp
    {related weaker : Requirement → Requirement → Prop}
    {demand other : Demand}
    (weaken : ∀ requirement otherRequirement,
      related requirement otherRequirement → weaker requirement otherRequirement)
    (rel : demand.Rel related other) :
    demand.Rel weaker other := by
  cases rel with
  | fixed outcome => exact .fixed outcome
  | requires same => exact .requires (weaken _ _ same)

/-- A demand is related to itself when its requirement is. -/
theorem Demand.Rel.self
    {related : Requirement → Requirement → Prop}
    {demand : Demand}
    (same : ∀ requirement, demand = .requires requirement → related requirement requirement) :
    demand.Rel related demand := by
  cases demand with
  | fixed outcome => exact .fixed outcome
  | requires requirement => exact .requires (same requirement rfl)

/-- The unit with its usages changed one by one. -/
def PricingUnit.map (unit : PricingUnit) (change : FareUsage → FareUsage) : PricingUnit where
  fareUsages := unit.fareUsages.map change

/-- Where usages keep their parts and their segments change, so do those of the other part. -/
theorem PricingUnit.oppositeSegments_map
    {change : FareUsage → FareUsage}
    {changeSegment : Segment → Segment}
    (unit : PricingUnit)
    (usage : FareUsage)
    (inbound_eq : ∀ usage, (change usage).inbound = usage.inbound)
    (segments_eq : ∀ usage,
      (change usage).itinerary.segments = usage.itinerary.segments.map changeSegment) :
    (unit.map change).oppositeSegments (change usage) =
      (unit.oppositeSegments usage).map changeSegment := by
  simp only [oppositeSegments, map, List.filter_map, List.flatMap_map, List.map_flatMap,
    Function.comp_def, inbound_eq, segments_eq]

/-- What the direction of a usage decides depends on its market and its part. -/
theorem DirectionIndicator.checkUsage_congr
    {usage other : FareUsage}
    (indicator : DirectionIndicator)
    (direction_eq : usage.itinerary.direction = other.itinerary.direction)
    (inbound_eq : usage.inbound = other.inbound) :
    indicator.checkUsage usage = indicator.checkUsage other := by
  unfold checkUsage opposes
  rw [direction_eq, inbound_eq]

namespace CompiledRule

/-- A rule in one transaction has the outcomes that another rule has in another transaction. -/
structure SameOutcomes
    (rule : CompiledRule)
    (context : Context)
    (other : CompiledRule)
    (otherContext : Context) : Prop where
  outcome_eq : ∀ itinerary, rule.outcome context itinerary = other.outcome otherContext itinerary
  outcomeInUnit_eq : ∀ unit usage,
    rule.outcomeInUnit context unit usage = other.outcomeInUnit otherContext unit usage

variable
  {rule other : CompiledRule}
  {context otherContext : Context}
  {requirement otherRequirement : Requirement}
  {segments others opposite otherOpposite : List Segment}

/--
Rules that meet their requirements alike, in the same window, find the same.  Where nothing is flown
in the window, their requirements do not matter.
-/
theorem outcome_look_congr
    (turns_eq : rule.turnsRound = other.turnsRound)
    (window_eq : rule.reach.window segments = other.reach.window others)
    (flown_eq : ∀ window, rule.reach.window segments = some window →
      (window.slice segments).countP Segment.isFlown =
        (window.slice others).countP Segment.isFlown)
    (met_eq : ∀ window, rule.reach.window segments = some window →
      (window.slice segments).countP Segment.isFlown ≠ 0 →
      requirement.isMet context (window.slice segments) opposite =
        otherRequirement.isMet otherContext (window.slice others) otherOpposite) :
    (rule.look requirement context segments opposite).outcome =
      (other.look otherRequirement otherContext others otherOpposite).outcome := by
  rw [outcome_look, outcome_look, ← window_eq, turns_eq]
  cases found : rule.reach.window segments with
  | none => rfl
  | some window =>
      simp only [Option.elim_some, ← flown_eq window found]
      by_cases noneFlown : (window.slice segments).countP Segment.isFlown = 0
      · rw [if_pos noneFlown, if_pos noneFlown]
      · rw [if_neg noneFlown, if_neg noneFlown, met_eq window found noneFlown]

/-- Rules with one application and one reach find the same where requirements are met alike. -/
theorem outcome_look_of_same_reach
    (application_eq : rule.application = other.application)
    (reach_eq : rule.reach = other.reach)
    (met_eq : ∀ inside, requirement.isMet context inside opposite =
      otherRequirement.isMet otherContext inside opposite) :
    (rule.look requirement context segments opposite).outcome =
      (other.look otherRequirement otherContext segments opposite).outcome := by
  apply outcome_look_congr
  · rw [turnsRound, turnsRound, application_eq, reach_eq]
  · rw [reach_eq]
  · exact fun _ _ => rfl
  · exact fun window _ _ => met_eq (window.slice segments)

/-- Rules that are used alike, and decide and find the same, have one outcome on single fares. -/
theorem outcome_congr
    {itinerary otherItinerary : Itinerary}
    (use_eq : rule.use = other.use)
    (market_eq : (rule.indicator context).checkMarket itinerary.direction =
      (other.indicator otherContext).checkMarket otherItinerary.direction)
    (demands : rule.demand.Rel (fun requirement otherRequirement =>
      (rule.look requirement context itinerary.segments []).outcome =
        (other.look otherRequirement otherContext otherItinerary.segments []).outcome)
      other.demand) :
    rule.outcome context itinerary = other.outcome otherContext otherItinerary := by
  unfold outcome finish
  rw [use_eq, market_eq]
  generalize rule.demand = demand, other.demand = otherDemand at demands ⊢
  cases demands with
  | fixed outcome => rfl
  | requires same => simp only [same]

/--
Rules that are used alike, and decide and find the same about corresponding usages, have one outcome
in pricing units that correspond usage by usage.
-/
theorem outcomeInUnit_congr
    {unit otherUnit : PricingUnit}
    {usage otherUsage : FareUsage}
    (corresponds : FareUsage → FareUsage → Prop)
    (use_eq : rule.use = other.use)
    (indicator_eq : rule.indicator context = other.indicator otherContext)
    (inbound_eq : ∀ usage otherUsage, corresponds usage otherUsage →
      usage.inbound = otherUsage.inbound)
    (check_eq : ∀ usage otherUsage, corresponds usage otherUsage →
      (rule.indicator context).checkUsage usage = (rule.indicator context).checkUsage otherUsage)
    (demands : rule.demand.Rel (fun requirement otherRequirement =>
      ∀ usage otherUsage, corresponds usage otherUsage →
        (rule.lookInUnit requirement context unit usage).outcome =
          (other.lookInUnit otherRequirement otherContext otherUnit otherUsage).outcome)
      other.demand)
    (units : List.Forall₂ corresponds unit.fareUsages otherUnit.fareUsages)
    (usages : corresponds usage otherUsage) :
    rule.outcomeInUnit context unit usage =
      other.outcomeInUnit otherContext otherUnit otherUsage := by
  unfold outcomeInUnit finish
  rw [use_eq, ← indicator_eq, check_eq usage otherUsage usages]
  generalize rule.demand = demand, other.demand = otherDemand at demands ⊢
  cases demands with
  | fixed outcome => rfl
  | requires same =>
      have combineSame := (rule.indicator context).combine_congr
        (units.imp fun usage otherUsage usages =>
          ⟨inbound_eq usage otherUsage usages, same usage otherUsage usages⟩)
      simp only [combineSame, same usage otherUsage usages]

/--
A change of usages has no effect in a unit if they keep what their directions decide and the rule
finds the same in the changed segments.
-/
theorem outcomeInUnit_map
    {change : FareUsage → FareUsage}
    {changeSegment : Segment → Segment}
    (unit : PricingUnit)
    (usage : FareUsage)
    (inbound_eq : ∀ usage, (change usage).inbound = usage.inbound)
    (segments_eq : ∀ usage,
      (change usage).itinerary.segments = usage.itinerary.segments.map changeSegment)
    (check_eq : ∀ usage, (rule.indicator context).checkUsage (change usage) =
      (rule.indicator context).checkUsage usage)
    (look_eq : ∀ requirement segments opposite,
      (rule.look requirement context (segments.map changeSegment)
          (opposite.map changeSegment)).outcome =
        (rule.look requirement context segments opposite).outcome) :
    rule.outcomeInUnit context (unit.map change) (change usage) =
      rule.outcomeInUnit context unit usage := by
  apply outcomeInUnit_congr (fun changed usage => changed = change usage) rfl rfl
  · rintro _ usage rfl
    exact inbound_eq usage
  · rintro _ usage rfl
    exact check_eq usage
  · refine .self fun requirement _ => ?_
    rintro _ usage rfl
    rw [lookInUnit, lookInUnit, unit.oppositeSegments_map usage inbound_eq segments_eq,
      segments_eq]
    exact look_eq requirement usage.itinerary.segments (unit.oppositeSegments usage)
  · exact List.forall₂_map_left_iff.2 (List.forall₂_same.2 fun _ _ => rfl)
  · rfl

/-- Rules that are used alike, for one direction, and always find the same, have one outcome. -/
theorem sameOutcomes_of_look
    (use_eq : rule.use = other.use)
    (indicator_eq : rule.indicator context = other.indicator otherContext)
    (demands : rule.demand.Rel (fun requirement otherRequirement =>
      ∀ segments opposite, (rule.look requirement context segments opposite).outcome =
        (other.look otherRequirement otherContext segments opposite).outcome)
      other.demand) :
    rule.SameOutcomes context other otherContext := by
  constructor
  · intro itinerary
    apply outcome_congr use_eq
    · rw [indicator_eq]
    · exact demands.imp fun _ _ same => same itinerary.segments []
  · intro unit usage
    apply outcomeInUnit_congr Eq use_eq indicator_eq
    · rintro usage _ rfl
      rfl
    · rintro usage _ rfl
      rfl
    · refine demands.imp fun requirement otherRequirement same => ?_
      rintro usage _ rfl
      exact same usage.itinerary.segments _
    · exact List.forall₂_same.2 fun _ _ => rfl
    · rfl

/--
Rules with one reach that turn what they find round or do not, both alike, have the same outcomes
where their requirements are met alike by all segments with a flight among them.
-/
theorem sameOutcomes_of_isMet
    (use_eq : rule.use = other.use)
    (indicator_eq : rule.indicator context = other.indicator otherContext)
    (negative_eq : rule.application.isNegative = other.application.isNegative)
    (reach_eq : rule.reach = other.reach)
    (demands : rule.demand.Rel (fun requirement otherRequirement =>
      ∀ inside opposite, inside.countP Segment.isFlown ≠ 0 →
        requirement.isMet context inside opposite =
          otherRequirement.isMet otherContext inside opposite)
      other.demand) :
    rule.SameOutcomes context other otherContext := by
  refine sameOutcomes_of_look use_eq indicator_eq (demands.imp ?_)
  intro requirement otherRequirement same segments opposite
  apply outcome_look_congr
  · rw [turnsRound, turnsRound, negative_eq, reach_eq]
  · rw [reach_eq]
  · exact fun _ _ => rfl
  · exact fun window _ someFlown => same (window.slice segments) opposite someFlown

end CompiledRule

/--
Two records are compiled to requirements that are related, or to one fixed outcome, if the same
attempt gives the requirement of either record, and related requirements where it succeeds.
-/
theorem RuleRecord.demand_rel
    {record other : RuleRecord}
    {context : Context}
    {vendor : String}
    {α : Type}
    {attempt : Except Defect α}
    {requirementOf otherRequirementOf : α → Requirement}
    {related : Requirement → Requirement → Prop}
    (availability_eq : record.availability = other.availability)
    (result_eq : (record.requirement context vendor).result = attempt.map requirementOf)
    (otherResult_eq :
      (other.requirement context vendor).result = attempt.map otherRequirementOf)
    (same : ∀ value, related (requirementOf value) (otherRequirementOf value)) :
    (record.demand context vendor).1.Rel related (other.demand context vendor).1 := by
  unfold demand
  rw [← availability_eq]
  cases record.availability with
  | dataUnavailable => exact .fixed _
  | textOnly => exact .fixed _
  | available =>
      simp only [result_eq, otherResult_eq]
      cases attempt with
      | error defect => exact .fixed _
      | ok value => exact .requires (same value)

end FlightRule
