import FlightRule.Proofs.Rule.Unit
import FlightRule.Proofs.Rule.Witness

/-!
# Provisional and final outcomes

What a rule finds in segments is final, and so is what the outcomes of several usages amount to.  An
outcome is provisional only where the direction of a single fare cannot be judged without its
pricing unit, and in the unit it is final (`outcome_provisional_iff`).
-/

namespace FlightRule

/-! ## Final outcomes -/

/-- The outcome is neither provisional nor a stop. -/
def Outcome.isFinal : Outcome → Bool
  | pass | fail | skip => true
  | softPass | stop => false

theorem Outcome.isFinal_iff {outcome : Outcome} :
    outcome.isFinal = true ↔ outcome = .pass ∨ outcome = .fail ∨ outcome = .skip := by
  cases outcome <;> simp [isFinal]

theorem Outcome.ne_softPass_of_isFinal {outcome : Outcome} (final : outcome.isFinal = true) :
    outcome ≠ .softPass := by
  rintro rfl
  cases final

theorem Outcome.ne_stop_of_isFinal {outcome : Outcome} (final : outcome.isFinal = true) :
    outcome ≠ .stop := by
  rintro rfl
  cases final

@[simp] theorem Outcome.isFinal_negate (outcome : Outcome) :
    outcome.negate.isFinal = outcome.isFinal := by
  cases outcome <;> rfl

/-- What depends on a rule has no effect on whether its outcome is final. -/
@[simp] theorem CompiledRule.isFinal_finish (rule : CompiledRule) (outcome : Outcome) :
    (rule.finish outcome).isFinal = outcome.isFinal := by
  unfold finish
  cases rule.use with
  | primary => rfl
  | ifQualifier => rfl
  | ifNotQualifier => exact outcome.isFinal_negate

/-- What a rule finds in segments is final. -/
theorem CompiledRule.isFinal_look
    (rule : CompiledRule)
    (requirement : Requirement)
    (context : Context)
    (segments opposite : List Segment) :
    (rule.look requirement context segments opposite).outcome.isFinal = true := by
  rw [outcome_look]
  cases rule.reach.window segments with
  | none => rfl
  | some window =>
      simp only [Option.elim_some]
      split
      · rfl
      · split <;> rfl

/-- The fixed outcomes of records are final. -/
theorem RuleRecord.isFinal_of_demand
    {record : RuleRecord}
    {context : Context}
    {vendor : String}
    {outcome : Outcome}
    (demand_eq : (record.demand context vendor).1 = .fixed outcome) :
    outcome.isFinal = true := by
  unfold demand at demand_eq
  cases available : record.availability with
  | dataUnavailable =>
      obtain rfl : Outcome.fail = outcome := by simpa [available] using demand_eq
      rfl
  | textOnly =>
      obtain rfl : Outcome.skip = outcome := by simpa [available] using demand_eq
      rfl
  | available =>
      cases result_eq : (record.requirement context vendor).result with
      | ok requirement => simp [available, result_eq] at demand_eq
      | error defect =>
          obtain rfl : defect.outcome = outcome := by simpa [available, result_eq] using demand_eq
          cases defect <;> rfl

/-- Whatever several usages come to one by one, together they come to something final. -/
theorem Quantifier.isFinal_join
    {ι : Type}
    (quantifier : Quantifier)
    (outcome : ι → Outcome)
    (usages : List ι) :
    (quantifier.join outcome usages).isFinal = true := by
  rw [join_eq_verdict, verdict]
  split
  · cases quantifier <;> rfl
  · split
    · rfl
    · cases quantifier <;> rfl

/-- The usages of a pricing unit together have a final outcome. -/
theorem DirectionIndicator.isFinal_combine
    {ι : Type}
    (indicator : DirectionIndicator)
    (isInbound : ι → Bool)
    (outcome : ι → Outcome)
    (usages : List ι) :
    (indicator.combine isInbound outcome usages).isFinal = true := by
  have joined (quantifier : Quantifier) (usages : List ι) :=
    quantifier.isFinal_join outcome usages
  unfold combine
  cases indicator with
  | blank => rfl
  | outbound => rfl
  | inbound => rfl
  | both => exact joined .all usages
  | either =>
      dsimp only
      split
      · rfl
      · split
        · exact joined .any _
        · exact joined .any _
  | oneNotBoth =>
      dsimp only
      split
      · rfl
      · split <;> rfl

/-! ## In a pricing unit -/

/-- What the direction of a usage decides is final. -/
theorem DirectionIndicator.isFinal_of_checkUsage
    {indicator : DirectionIndicator}
    {usage : FareUsage}
    {outcome : Outcome}
    (decided : indicator.checkUsage usage = some outcome) :
    outcome.isFinal = true := by
  unfold checkUsage at decided
  split at decided
  · obtain rfl : Outcome.fail = outcome := by simpa using decided
    rfl
  · cases decided

namespace CompiledRule

variable
  {rule : CompiledRule}
  {context : Context}
  (fixedFinal : ∀ outcome, rule.demand = .fixed outcome → outcome.isFinal = true)

include fixedFinal

/-- In a pricing unit nothing is left open. -/
theorem isFinal_outcomeInUnit_of_fixed (unit : PricingUnit) (usage : FareUsage) :
    (rule.outcomeInUnit context unit usage).isFinal = true := by
  rw [outcomeInUnit, isFinal_finish]
  cases demand_eq : rule.demand with
  | fixed outcome => exact fixedFinal outcome demand_eq
  | requires requirement =>
      dsimp only
      split
      · exact DirectionIndicator.isFinal_combine _ _ _ _
      · cases decided : (rule.indicator context).checkUsage usage with
        | some outcome => exact DirectionIndicator.isFinal_of_checkUsage decided
        | none => exact rule.isFinal_look requirement context usage.itinerary.segments _

end CompiledRule

/-! ## On a single fare -/

namespace DirectionIndicator

variable
  {indicator : DirectionIndicator}
  {direction : MarketDirection}

/-- The direction of a market makes a single fare fail, or it leaves the matter open. -/
theorem eq_fail_or_eq_softPass_of_checkMarket
    {outcome : Outcome}
    (decided : indicator.checkMarket direction = some outcome) :
    outcome = .fail ∨ outcome = .softPass := by
  unfold checkMarket at decided
  split at decided <;> simp_all

/-- Some indicators ask for the whole unit, and the others for the direction of the market. -/
theorem checkMarket_eq_softPass_iff :
    indicator.checkMarket direction = some .softPass ↔
      (indicator = .either ∨ indicator = .oneNotBoth ∨ indicator = .both) ∨
        (indicator = .outbound ∨ indicator = .inbound) ∧ direction = .unknown := by
  cases indicator <;> cases direction <;> simp [checkMarket]

/-- Round the world no direction counts, and so none can be left open. -/
theorem checkMarket_effective_eq_softPass_iff {context : Context} :
    (indicator.effective context).checkMarket direction = some .softPass ↔
      context.roundTheWorld = false ∧ indicator.checkMarket direction = some .softPass := by
  unfold effective
  cases context.roundTheWorld with
  | false => simp
  | true => simp [checkMarket]

end DirectionIndicator

namespace CompiledRule

/-- The rule has a requirement, and the direction of the fare leaves open whether it applies. -/
def LeavesOpen (rule : CompiledRule) (context : Context) (itinerary : Itinerary) : Prop :=
  (∃ requirement, rule.demand = .requires requirement) ∧
    (rule.indicator context).checkMarket itinerary.direction = some .softPass

variable
  {rule : CompiledRule}
  {context : Context}
  {itinerary : Itinerary}

/-- A rule that leaves the question open passes provisionally. -/
theorem outcome_of_leavesOpen (leavesOpen : rule.LeavesOpen context itinerary) :
    rule.outcome context itinerary = .softPass := by
  obtain ⟨⟨requirement, demand_eq⟩, provisional⟩ := leavesOpen
  rw [outcome, demand_eq, provisional]
  exact rule.finish_softPass

/-- A rule that does not leave the question open has a final outcome. -/
theorem isFinal_outcome_of_not_leavesOpen
    (fixedFinal : ∀ outcome, rule.demand = .fixed outcome → outcome.isFinal = true)
    (settled : ¬rule.LeavesOpen context itinerary) :
    (rule.outcome context itinerary).isFinal = true := by
  rw [outcome, isFinal_finish]
  cases demand_eq : rule.demand with
  | fixed outcome => exact fixedFinal outcome demand_eq
  | requires requirement =>
      cases decided : (rule.indicator context).checkMarket itinerary.direction with
      | none => exact rule.isFinal_look requirement context itinerary.segments []
      | some outcome =>
          rcases DirectionIndicator.eq_fail_or_eq_softPass_of_checkMarket decided with rfl | rfl
          · rfl
          · exact absurd ⟨⟨requirement, demand_eq⟩, decided⟩ settled

/-- What is left open is provisional, and nothing else is. -/
theorem outcome_eq_softPass_iff_leavesOpen
    (fixedFinal : ∀ outcome, rule.demand = .fixed outcome → outcome.isFinal = true) :
    rule.outcome context itinerary = .softPass ↔ rule.LeavesOpen context itinerary := by
  refine ⟨fun provisional => ?_, outcome_of_leavesOpen⟩
  by_contra settled
  exact Outcome.ne_softPass_of_isFinal
    (isFinal_outcome_of_not_leavesOpen fixedFinal settled) provisional

/-- No rule stops the check, unless its fixed outcome says so. -/
theorem outcome_ne_stop
    (fixedFinal : ∀ outcome, rule.demand = .fixed outcome → outcome.isFinal = true) :
    rule.outcome context itinerary ≠ .stop := by
  by_cases leavesOpen : rule.LeavesOpen context itinerary
  · simp [outcome_of_leavesOpen leavesOpen]
  · exact Outcome.ne_stop_of_isFinal (isFinal_outcome_of_not_leavesOpen fixedFinal leavesOpen)

end CompiledRule

/--
In a pricing unit a rule passes, fails or is skipped.  On a single fare it never stops, and its
outcome is provisional exactly where it has a requirement, the ticket does not go round the world,
and the rule is filed for a combination of directions, or for one direction while that of the market
is not known.
-/
theorem outcome_provisional_iff
    (record : RuleRecord)
    (use : RuleUse)
    (vendor : String)
    (compileContext context : Context) :
    let rule := record.compile use vendor compileContext
    (∀ unit usage,
      rule.outcomeInUnit context unit usage = .pass ∨
        rule.outcomeInUnit context unit usage = .fail ∨
        rule.outcomeInUnit context unit usage = .skip) ∧
    ∀ itinerary : Itinerary,
      rule.outcome context itinerary ≠ .stop ∧
      (rule.outcome context itinerary = .softPass ↔
        (∃ requirement, rule.demand = .requires requirement) ∧
          context.roundTheWorld = false ∧
          ((record.direction = .either ∨ record.direction = .oneNotBoth ∨
              record.direction = .both) ∨
            (record.direction = .outbound ∨ record.direction = .inbound) ∧
              itinerary.direction = .unknown)) := by
  intro rule
  have fixedFinal (outcome : Outcome) (demand_eq : rule.demand = .fixed outcome) :
      outcome.isFinal = true :=
    RuleRecord.isFinal_of_demand demand_eq
  constructor
  · intro unit usage
    exact Outcome.isFinal_iff.1 (CompiledRule.isFinal_outcomeInUnit_of_fixed fixedFinal unit usage)
  · intro itinerary
    refine ⟨CompiledRule.outcome_ne_stop fixedFinal, ?_⟩
    have indicator_eq : rule.indicator context = record.direction.effective context := rfl
    rw [CompiledRule.outcome_eq_softPass_iff_leavesOpen fixedFinal, CompiledRule.LeavesOpen,
      indicator_eq, DirectionIndicator.checkMarket_effective_eq_softPass_iff,
      DirectionIndicator.checkMarket_eq_softPass_iff]

end FlightRule
