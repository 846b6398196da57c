import FlightRule.Proofs.Rule.Agreement
import FlightRule.Proofs.Rule.Unit
import FlightRule.Proofs.Shape.Order

/-!
# The order of the usages of a pricing unit

The usages of a pricing unit are asked for their outcomes in order, and a usage that is skipped can
be made up for by a later one, so that the joint outcome depends on the order.  What decides it does
not: that some usage passes, or that some usage fails.  Where no usage is skipped, the joint outcome
depends on nothing else (`DirectionIndicator.combine_of_perm`).  The order also turns the segments
of the other part of the unit round, which no shape notices (`CompiledRule.lookInUnit_of_perm`).
-/

namespace FlightRule

/-! ## Joint outcomes -/

namespace Quantifier

variable {results others : List Outcome}

/-- Where nothing is skipped, the verdict is read off the outcomes in any order. -/
theorem verdict_of_perm
    (quantifier : Quantifier)
    (perm : results.Perm others)
    (noneSkipped : .skip ∉ results) :
    quantifier.verdict results = quantifier.verdict others := by
  have lastNot {outcomes : List Outcome} (noneSkipped : .skip ∉ outcomes) :
      outcomes.getLast? ≠ some .skip :=
    fun last => noneSkipped (List.mem_of_getLast? last)
  have othersNot : .skip ∉ others := mt perm.mem_iff.2 noneSkipped
  rw [verdict, verdict, if_neg (lastNot noneSkipped), if_neg (lastNot othersNot)]
  simp only [perm.mem_iff]

theorem verdict_all_eq_fail_iff : all.verdict results = .fail ↔ .fail ∈ results := by
  unfold verdict
  by_cases fails : .fail ∈ results
  · simp [fails, deciding]
  · by_cases skips : results.getLast? = some .skip <;> simp [fails, skips, deciding, undecided]

end Quantifier

namespace DirectionIndicator

variable
  {ι : Type}
  {isInbound : ι → Bool}
  {outcome : ι → Outcome}
  {usages others : List ι}

/-- EITHER passes when some usage does. -/
theorem either_combine_eq_pass_iff :
    either.combine isInbound outcome usages = .pass ↔ .pass ∈ usages.map outcome := by
  rw [either_combine]
  split
  next passes => exact ⟨fun _ => passes, fun _ => rfl⟩
  next noPass =>
      refine ⟨fun passes => ?_, fun passes => absurd passes noPass⟩
      split at passes <;> cases passes

/-- BOTH fails when some usage does. -/
theorem both_combine_eq_fail_iff :
    both.combine isInbound outcome usages = .fail ↔ .fail ∈ usages.map outcome := by
  rw [← Quantifier.verdict_all_eq_fail_iff, ← Quantifier.join_eq_verdict]
  rfl

/-- Where no usage is skipped, the usages have one joint outcome in any order. -/
theorem combine_of_perm
    (indicator : DirectionIndicator)
    (perm : usages.Perm others)
    (noneSkipped : ∀ usage ∈ usages, outcome usage ≠ .skip) :
    indicator.combine isInbound outcome usages = indicator.combine isInbound outcome others := by
  have verdictSame (quantifier : Quantifier) (test : ι → Bool) :
      quantifier.verdict ((usages.filter test).map outcome) =
        quantifier.verdict ((others.filter test).map outcome) := by
    apply quantifier.verdict_of_perm ((perm.filter test).map outcome)
    intro skipped
    obtain ⟨usage, member, skips⟩ := List.mem_map.1 skipped
    exact noneSkipped usage (List.mem_filter.1 member).1 skips
  have allSame := verdictSame .all fun _ => true
  simp only [List.filter_true] at allSame
  simp only [combine, Quantifier.join_eq_verdict, verdictSame, allSame]

end DirectionIndicator

/-! ## Rules in a pricing unit -/

variable {unit other : PricingUnit}

theorem PricingUnit.oppositeSegments_of_perm
    (perm : unit.fareUsages.Perm other.fareUsages)
    (usage : FareUsage) :
    (unit.oppositeSegments usage).Perm (other.oppositeSegments usage) :=
  (perm.filter _).flatMap_right _

/-- What a rule finds in the segments of a usage does not depend on the order of the usages. -/
theorem CompiledRule.lookInUnit_of_perm
    (rule : CompiledRule)
    (requirement : Requirement)
    (context : Context)
    (perm : unit.fareUsages.Perm other.fareUsages)
    (usage : FareUsage) :
    (rule.lookInUnit requirement context unit usage).outcome =
      (rule.lookInUnit requirement context other usage).outcome := by
  apply outcome_look_congr rfl rfl
  · exact fun _ _ => rfl
  · intro window _ _
    rw [Requirement.isMet, Requirement.isMet, Requirement.shapeMet_of_perm (.refl _)
      ((PricingUnit.oppositeSegments_of_perm perm usage).filter _)]

/--
The order of the usages of a pricing unit has no effect on the outcome for a usage under an
indicator that does not look at the whole unit.  Under EITHER it has none on whether the outcome is
pass, and under BOTH on whether it is fail.  It has none at all where the rule applies to every
usage of the unit.
-/
theorem outcomeInUnit_of_perm
    (rule : CompiledRule)
    (context : Context)
    (usage : FareUsage)
    (ownOutcome : rule.use = .primary ∨ rule.use = .ifQualifier)
    (perm : unit.fareUsages.Perm other.fareUsages) :
    let before := rule.outcomeInUnit context unit usage
    let after := rule.outcomeInUnit context other usage
    ((rule.indicator context).needsUnit = false → before = after) ∧
    (rule.indicator context = .either → (before = .pass ↔ after = .pass)) ∧
    (rule.indicator context = .both → (before = .fail ↔ after = .fail)) ∧
    ((∀ requirement ∈ rule.requirement?, ∀ usage ∈ unit.fareUsages,
        (rule.lookInUnit requirement context unit usage).outcome ≠ .skip) →
      before = after) := by
  have finish_eq (outcome : Outcome) : rule.finish outcome = outcome := by
    rcases ownOutcome with use | use <;> rw [CompiledRule.finish, use]
  unfold CompiledRule.outcomeInUnit CompiledRule.requirement?
  simp only [finish_eq]
  cases rule.demand with
  | fixed outcome => exact ⟨fun _ => rfl, fun _ => .rfl, fun _ => .rfl, fun _ => rfl⟩
  | requires requirement =>
      simp only [← rule.lookInUnit_of_perm requirement context perm]
      have results_perm :=
        perm.map fun usage => (rule.lookInUnit requirement context unit usage).outcome
      refine ⟨?_, ?_, ?_, ?_⟩
      · intro single
        rw [single]
        rfl
      · intro indicator_eq
        rw [indicator_eq]
        simp only [DirectionIndicator.needsUnit, if_true,
          DirectionIndicator.either_combine_eq_pass_iff, results_perm.mem_iff]
      · intro indicator_eq
        rw [indicator_eq]
        simp only [DirectionIndicator.needsUnit, if_true,
          DirectionIndicator.both_combine_eq_fail_iff, results_perm.mem_iff]
      · intro noneSkipped
        rw [(rule.indicator context).combine_of_perm perm (noneSkipped requirement rfl)]

/-- Flights of one carrier have to be used on one of the two ways, and none on the other. -/
def oneWayOnly : RuleRecord := { outboundOnce with direction := .oneNotBoth }

/-- A way out by the carrier and back by another one passes in either order. -/
theorem outcomeInUnit_of_reversed_unit :
    let rule := oneWayOnly.compile .primary "ATP" {}
    let unit := returnBy (.air "AA" 2 default default)
    let reversed : PricingUnit := ⟨unit.fareUsages.reverse⟩
    rule.use = .primary ∧ unit.fareUsages.Perm reversed.fareUsages ∧
      (∀ requirement ∈ rule.requirement?, ∀ usage ∈ unit.fareUsages,
        (rule.lookInUnit requirement {} unit usage).outcome ≠ .skip) ∧
      rule.outcomeInUnit {} reversed wayOut = .pass := by
  intro rule unit reversed
  have perm : unit.fareUsages.Perm reversed.fareUsages := (List.reverse_perm _).symm
  have noneSkipped : ∀ requirement ∈ rule.requirement?, ∀ usage ∈ unit.fareUsages,
      (rule.lookInUnit requirement {} unit usage).outcome ≠ .skip := by
    decide
  obtain ⟨_, _, _, same⟩ := outcomeInUnit_of_perm rule {} wayOut (.inl rfl) perm
  exact ⟨rfl, perm, noneSkipped, (same noneSkipped).symm.trans (by decide)⟩

/-- Where a usage is skipped, it matters whether another one follows. -/
example :
    let combine (outcomes : List Outcome) : Outcome :=
      DirectionIndicator.both.combine (fun _ => false) id outcomes
    combine [.skip, .pass] = .pass ∧ combine [.pass, .skip] = .skip := by
  decide

end FlightRule
