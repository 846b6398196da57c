import FlightRule.Proofs.Rule.Agreement

/-!
# What a rule is used for

A rule is compiled and judged in the same way whatever it is used for.  Its use counts once, when
the outcome is handed to the caller, behind everything that decides it: a fixed outcome, a
direction, the segments, or all usages of a pricing unit (`CompiledRule.outcome_eq_finish`,
`CompiledRule.outcomeInUnit_eq_finish`).
-/

namespace FlightRule

namespace CompiledRule

/-- The rule, used for something else. -/
def withUse (rule : CompiledRule) (use : RuleUse) : CompiledRule :=
  { rule with use }

variable
  (rule : CompiledRule)
  (requirement : Requirement)
  (context : Context)

/-- Settings could tell uses apart by a provisional pass, but segments are never passed so. -/
theorem outcome_look_withUse (use : RuleUse) (segments opposite : List Segment) :
    ((rule.withUse use).look requirement context segments opposite).outcome =
      (rule.look requirement context segments opposite).outcome :=
  outcome_look_of_same_reach rfl rfl fun _ => rfl

@[simp] theorem demand_withUse (use : RuleUse) : (rule.withUse use).demand = rule.demand :=
  rfl

@[simp] theorem indicator_withUse (use : RuleUse) :
    (rule.withUse use).indicator context = rule.indicator context :=
  rfl

@[simp] theorem finish_withUse_primary (outcome : Outcome) :
    (rule.withUse .primary).finish outcome = outcome :=
  rfl

/-- The outcome on a fare is that for the rule's own sake, turned round at the end or not. -/
theorem outcome_eq_finish (itinerary : Itinerary) :
    rule.outcome context itinerary =
      rule.finish ((rule.withUse .primary).outcome context itinerary) := by
  rw [outcome, outcome, finish_withUse_primary, demand_withUse, indicator_withUse]
  simp only [outcome_look_withUse]

/-- The outcome in a unit is turned round behind the outcomes of its usages, and not with them. -/
theorem outcomeInUnit_eq_finish (unit : PricingUnit) (usage : FareUsage) :
    rule.outcomeInUnit context unit usage =
      rule.finish ((rule.withUse .primary).outcomeInUnit context unit usage) := by
  rw [outcomeInUnit, outcomeInUnit, finish_withUse_primary, demand_withUse, indicator_withUse]
  simp only [lookInUnit, outcome_look_withUse]

end CompiledRule

/-- Pass and fail are exchanged, so that a provisional outcome stays what it is. -/
theorem Outcome.negate_eq_softPass_iff {outcome : Outcome} :
    outcome.negate = .softPass ↔ outcome = .softPass := by
  cases outcome <;> simp [negate]

/--
A rule that something else depends on has the outcomes that the same record has for its own sake,
and where something else depends on the rule not being passed, it has the opposite outcomes.  A
provisional pass is its own opposite.  This holds of single fares and of usages in pricing units,
whatever decides the outcome, since compilation takes down the use and does not look at it.
-/
theorem outcome_of_qualifiers
    (record : RuleRecord)
    (vendor : String)
    (compileContext context : Context) :
    let rule (use : RuleUse) := record.compile use vendor compileContext
    (∀ itinerary,
      (rule .ifQualifier).outcome context itinerary = (rule .primary).outcome context itinerary ∧
      (rule .ifNotQualifier).outcome context itinerary =
        ((rule .primary).outcome context itinerary).negate ∧
      ((rule .ifNotQualifier).outcome context itinerary = .softPass ↔
        (rule .primary).outcome context itinerary = .softPass)) ∧
    ∀ unit usage,
      (rule .ifQualifier).outcomeInUnit context unit usage =
        (rule .primary).outcomeInUnit context unit usage ∧
      (rule .ifNotQualifier).outcomeInUnit context unit usage =
        ((rule .primary).outcomeInUnit context unit usage).negate := by
  intro rule
  have compiledAlike (use : RuleUse) : (rule use).withUse .primary = rule .primary := rfl
  constructor
  · intro itinerary
    have negated : (rule .ifNotQualifier).outcome context itinerary =
        ((rule .primary).outcome context itinerary).negate := by
      rw [(rule .ifNotQualifier).outcome_eq_finish, compiledAlike]
      rfl
    refine ⟨?_, negated, ?_⟩
    · rw [(rule .ifQualifier).outcome_eq_finish, compiledAlike]
      rfl
    · rw [negated, Outcome.negate_eq_softPass_iff]
  · intro unit usage
    constructor
    · rw [(rule .ifQualifier).outcomeInUnit_eq_finish, compiledAlike]
      rfl
    · rw [(rule .ifNotQualifier).outcomeInUnit_eq_finish, compiledAlike]
      rfl

end FlightRule
