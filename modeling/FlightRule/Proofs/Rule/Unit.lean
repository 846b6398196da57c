import FlightRule.Proofs.Direction.Joint
import FlightRule.Rule.Compile
import FlightRule.Rule.Evaluate

/-!
# Outcomes in a pricing unit

A fare is first judged on its own and then in its pricing unit.  What is decided on its own stands,
unless it is provisional: the directions that both stages look at are judged alike, and the other
part of the unit has no effect but by the flights that are used twice
(`outcome_eq_softPass_or_eq_outcomeInUnit`).  Under the indicators that look at the whole unit, the
outcome is read off the outcomes of all its usages (`combine_of_results`).  On a unit to which the
rule does not apply they are skipped, except that EITHER fails where a part of the unit has no
usages (`combine_of_skipped_usages`).
-/

namespace FlightRule

/-! ## The other part of the unit -/

/-- The constraint asks, in one way or the other, whether a flight is used twice. -/
def ShapeConstraint.AsksSameFlight (constraint : ShapeConstraint) : Prop :=
  .sameFlight ∈ constraint.valid ∨ .sameFlight ∈ constraint.invalid

/-- The requirement asks, in one way or the other, whether a flight is used twice. -/
def Requirement.AsksSameFlight (requirement : Requirement) : Prop :=
  ∃ constraint ∈ requirement.shape, constraint.AsksSameFlight

variable
  {segments opposite : List Segment}
  {requirement : Requirement}
  {context : Context}

namespace ShapeKind

/-- Only the question for a flight that is used twice looks at the other part of the unit. -/
theorem holds_alone_of_ne_sameFlight
    {kind : ShapeKind}
    (other : kind ≠ .sameFlight)
    (countHidden : Bool) :
    kind.holds segments opposite countHidden = kind.holds segments [] countHidden := by
  cases kind with
  | sameFlight => exact absurd rfl other
  | nonStop => rfl
  | direct => rfl
  | oneStop => rfl
  | multiStop => rfl
  | online => rfl
  | interline => rfl

/-- Where nothing is flown in the other part of the unit, it might as well be missing. -/
theorem holds_alone_of_nothing_flown
    (kind : ShapeKind)
    (noneFlown : ∀ segment ∈ opposite, segment.isFlown = false)
    (countHidden : Bool) :
    kind.holds segments opposite countHidden = kind.holds segments [] countHidden := by
  have nothing : opposite.filter Segment.isFlown = [] := by
    rw [List.filter_eq_nil_iff]
    intro segment member
    simp [noneFlown segment member]
  cases kind with
  | sameFlight => simp [holds, nothing]
  | _ => rfl

end ShapeKind

/--
A shape that does not compare flights, or has none to compare with, does not look at the other part.
-/
theorem ShapeConstraint.holds_alone
    {constraint : ShapeConstraint}
    (alone : ¬constraint.AsksSameFlight ∨ ∀ segment ∈ opposite, segment.isFlown = false) :
    constraint.holds segments opposite = constraint.holds segments [] := by
  have same (kind : ShapeKind) (named : kind ∈ constraint.valid ∨ kind ∈ constraint.invalid) :
      kind.holds segments opposite constraint.countHidden =
        kind.holds segments [] constraint.countHidden := by
    rcases alone with notAsked | noneFlown
    · refine kind.holds_alone_of_ne_sameFlight ?_ _
      rintro rfl
      exact notAsked named
    · exact kind.holds_alone_of_nothing_flown noneFlown _
  have validSame :
      constraint.valid.any (·.holds segments opposite constraint.countHidden) =
        constraint.valid.any (·.holds segments [] constraint.countHidden) := by
    rw [Bool.eq_iff_iff, List.any_eq_true, List.any_eq_true]
    refine exists_congr fun kind => and_congr_right fun member => ?_
    rw [same kind (.inl member)]
  have invalidSame :
      (constraint.invalid.all fun kind => !kind.holds segments opposite constraint.countHidden) =
        constraint.invalid.all fun kind => !kind.holds segments [] constraint.countHidden := by
    rw [Bool.eq_iff_iff, List.all_eq_true, List.all_eq_true]
    refine forall₂_congr fun kind member => ?_
    rw [same kind (.inr member)]
  rw [holds, validSame, invalidSame, ← holds]

/-- A requirement with such a shape does not look at the other part either. -/
theorem Requirement.isMet_alone
    (alone : ¬requirement.AsksSameFlight ∨ ∀ segment ∈ opposite, segment.isFlown = false) :
    requirement.isMet context segments opposite = requirement.isMet context segments [] := by
  have shapeSame : requirement.shapeMet segments opposite = requirement.shapeMet segments [] := by
    unfold shapeMet
    cases shape_eq : requirement.shape with
    | none => rfl
    | some constraint =>
        apply ShapeConstraint.holds_alone
        refine alone.imp_left fun notAsked asked => notAsked ⟨constraint, ?_, asked⟩
        rw [shape_eq]
        rfl
  rw [isMet, isMet, shapeSame]

/-- What a rule finds does not depend on the other part of the unit, if nothing asks for it. -/
theorem CompiledRule.look_alone
    {rule : CompiledRule}
    (alone : ¬requirement.AsksSameFlight ∨ ∀ segment ∈ opposite, segment.isFlown = false) :
    rule.look requirement context segments opposite =
      rule.look requirement context segments [] := by
  unfold look witness
  simp only [requirement.isMet_alone alone]

/-! ## Directions -/

/--
What the direction of its market decides about a fare is provisional, or its place in the unit
decides the same, and the whole unit is not asked.
-/
theorem DirectionIndicator.checkMarket_eq_softPass_or
    (indicator : DirectionIndicator)
    (usage : FareUsage) :
    indicator.checkMarket usage.itinerary.direction = some .softPass ∨
      indicator.needsUnit = false ∧
        indicator.checkUsage usage = indicator.checkMarket usage.itinerary.direction := by
  unfold checkUsage opposes
  cases indicator with
  | blank => exact .inr ⟨rfl, rfl⟩
  | either => exact .inl rfl
  | oneNotBoth => exact .inl rfl
  | both => exact .inl rfl
  | outbound =>
      cases usage.itinerary.direction with
      | outbound => exact .inr ⟨rfl, rfl⟩
      | inbound => exact .inr ⟨rfl, rfl⟩
      | unknown => exact .inl rfl
  | inbound =>
      cases usage.itinerary.direction with
      | outbound => exact .inr ⟨rfl, rfl⟩
      | inbound => exact .inr ⟨rfl, rfl⟩
      | unknown => exact .inl rfl

/-! ## The two stages -/

theorem CompiledRule.finish_softPass (rule : CompiledRule) :
    rule.finish .softPass = .softPass := by
  unfold finish
  cases rule.use <;> rfl

/--
The outcome on the itinerary of a fare is provisional, or it is the outcome on every usage of the
fare in a pricing unit, provided that the rule does not ask whether a flight is used twice or
nothing is flown in the other part of the unit.
-/
theorem outcome_eq_softPass_or_eq_outcomeInUnit
    (rule : CompiledRule)
    (context : Context)
    (unit : PricingUnit)
    (usage : FareUsage)
    (alone : (∀ requirement ∈ rule.requirement?, ¬requirement.AsksSameFlight) ∨
      ∀ segment ∈ unit.oppositeSegments usage, segment.isFlown = false) :
    rule.outcome context usage.itinerary = .softPass ∨
      rule.outcome context usage.itinerary = rule.outcomeInUnit context unit usage := by
  unfold CompiledRule.outcome CompiledRule.outcomeInUnit
  cases demand_eq : rule.demand with
  | fixed outcome => exact .inr rfl
  | requires requirement =>
      have looksAlone : ¬requirement.AsksSameFlight ∨
          ∀ segment ∈ unit.oppositeSegments usage, segment.isFlown = false :=
        alone.imp_left fun notAsked => notAsked requirement (by
          simp [CompiledRule.requirement?, demand_eq])
      rcases (rule.indicator context).checkMarket_eq_softPass_or usage with
        provisional | ⟨single, decidedAlike⟩
      · left
        rw [provisional]
        exact rule.finish_softPass
      · right
        simp only [single, decidedAlike, CompiledRule.lookInUnit,
          CompiledRule.look_alone looksAlone]
        rfl

/-- Flights of one carrier have to be used on the way out, and none of them on the way back. -/
def outboundOnce : RuleRecord where
  vendor := "ATP"
  itemNo := 1
  application := .must
  slots := { first := .literal "DL" (-1) }
  shape := { sameFlight := .invalid }
  direction := .outbound

/-- The way out, by one flight of the carrier. -/
def wayOut : FareUsage where
  itinerary := ⟨[.air "DL" 1 default default], .outbound⟩
  inbound := false

/-- The way out with some way back. -/
def returnBy (segment : Segment) : PricingUnit where
  fareUsages := [wayOut, ⟨⟨[segment], .inbound⟩, true⟩]

/-- While the flight back has not been chosen, the way out passes in the unit as it does alone. -/
theorem outcomeInUnit_of_open_return :
    let rule := outboundOnce.compile .primary "ATP" {}
    let unit := returnBy (.openFlight "DL" default default)
    (∀ segment ∈ unit.oppositeSegments wayOut, segment.isFlown = false) ∧
      rule.outcome {} wayOut.itinerary = .pass ∧ rule.outcomeInUnit {} unit wayOut = .pass := by
  intro rule unit
  have noneFlown : ∀ segment ∈ unit.oppositeSegments wayOut, segment.isFlown = false := by decide
  have passes : rule.outcome {} wayOut.itinerary = .pass := by decide
  refine ⟨noneFlown, passes, ?_⟩
  rcases outcome_eq_softPass_or_eq_outcomeInUnit rule {} unit wayOut (.inr noneFlown) with
    provisional | same
  · rw [passes] at provisional
    exact absurd provisional (by decide)
  · exact same.symm.trans passes

/-- A flight back with the number of the flight out is what the proviso is about. -/
example :
    (outboundOnce.compile .primary "ATP" {}).outcomeInUnit {}
      (returnBy (.air "DL" 1 default default)) wayOut = .fail := by
  decide

/-! ## Indicators of the whole unit -/

/-- Under an indicator of the whole unit, the usage that is asked about has no effect. -/
theorem CompiledRule.outcomeInUnit_of_needsUnit
    {rule : CompiledRule}
    (needsUnit : (rule.indicator context).needsUnit = true)
    (unit : PricingUnit)
    (usage other : FareUsage) :
    rule.outcomeInUnit context unit usage = rule.outcomeInUnit context unit other := by
  unfold outcomeInUnit
  simp only [needsUnit, if_true]

/--
The joint outcomes of a pricing unit, read off the outcomes of its usages.  BOTH fails if some
usage fails, and else is skipped if the last usage is; it passes otherwise.  EITHER passes if some
usage passes, and else is skipped if both parts are; it fails otherwise.  ONE BUT NOT BOTH is
skipped if a part is, and else passes if exactly one part has a usage that passes.  A rule with one
of these indicators has the same outcome on all usages of a unit.
-/
theorem combine_of_results
    {ι : Type}
    (isInbound : ι → Bool)
    (outcome : ι → Outcome)
    (usages : List ι) :
    let results := usages.map outcome
    let outboundResults := (usages.filter fun usage => !isInbound usage).map outcome
    let inboundResults := (usages.filter isInbound).map outcome
    let verdict (results : List Outcome) : Outcome :=
      if .pass ∈ results then .pass
      else if results.getLast? = some .skip then .skip
      else .fail
    (DirectionIndicator.both.combine isInbound outcome usages =
      if .fail ∈ results then .fail
      else if results.getLast? = some .skip then .skip
      else .pass) ∧
    (DirectionIndicator.either.combine isInbound outcome usages =
      if .pass ∈ results then .pass
      else if verdict outboundResults = .skip ∧ verdict inboundResults = .skip then .skip
      else .fail) ∧
    (DirectionIndicator.oneNotBoth.combine isInbound outcome usages =
      if verdict outboundResults = .skip ∨ verdict inboundResults = .skip then .skip
      else if (.pass ∈ outboundResults ↔ .pass ∉ inboundResults) then .pass
      else .fail) ∧
    ∀ (rule : CompiledRule) (context : Context),
      (rule.indicator context).needsUnit = true →
        ∀ (unit : PricingUnit) (usage other : FareUsage),
          rule.outcomeInUnit context unit usage = rule.outcomeInUnit context unit other := by
  intro results outboundResults inboundResults verdict
  refine ⟨?_, ?_, ?_, ?_⟩
  · exact Quantifier.all.join_eq_verdict outcome usages
  · exact DirectionIndicator.either_combine isInbound outcome usages
  · exact DirectionIndicator.oneNotBoth_combine isInbound outcome usages
  · intro rule context needsUnit
    exact CompiledRule.outcomeInUnit_of_needsUnit needsUnit

/-- A failure between two skipped usages counts, unless the parts are looked at one by one. -/
theorem combine_of_failure_between_skips :
    let combine (indicator : DirectionIndicator) : Outcome :=
      indicator.combine Prod.fst Prod.snd [(false, .skip), (true, .fail), (false, .skip)]
    let rule := ({ outboundOnce with direction := .both } : RuleRecord).compile .primary "ATP" {}
    let unit := returnBy (.air "AA" 2 default default)
    combine .both = .fail ∧ combine .either = .fail ∧ combine .oneNotBoth = .skip ∧
      (rule.indicator {}).needsUnit = true ∧
      rule.outcomeInUnit {} unit wayOut =
        rule.outcomeInUnit {} unit { wayOut with inbound := true } := by
  intro combine rule unit
  obtain ⟨both, either, oneNotBoth, sameOutcome⟩ :=
    combine_of_results Prod.fst Prod.snd [(false, .skip), (true, .fail), (false, .skip)]
  have needsUnit : (rule.indicator {}).needsUnit = true := rfl
  refine ⟨?_, ?_, ?_, needsUnit, sameOutcome rule {} needsUnit unit _ _⟩
  · exact both.trans (by decide)
  · exact either.trans (by decide)
  · exact oneNotBoth.trans (by decide)

/-! ## Units to which a rule does not apply -/

/--
Where a rule applies to no usage of a pricing unit, BOTH and ONE BUT NOT BOTH are skipped.  EITHER
is skipped if the unit has usages in both of its parts; a part without usages counts as one that
fails, so that EITHER fails on a unit with usages in one part only.
-/
theorem combine_of_skipped_usages
    {ι : Type}
    (isInbound : ι → Bool)
    (outcome : ι → Outcome)
    (usages : List ι)
    (nonempty : usages ≠ [])
    (skipped : ∀ usage ∈ usages, outcome usage = .skip) :
    DirectionIndicator.both.combine isInbound outcome usages = .skip ∧
    DirectionIndicator.oneNotBoth.combine isInbound outcome usages = .skip ∧
    DirectionIndicator.either.combine isInbound outcome usages =
      if (∃ usage ∈ usages, isInbound usage = false) ∧ ∃ usage ∈ usages, isInbound usage = true
        then .skip else .fail := by
  have partOf (test : ι → Bool) := Quantifier.join_filter_of_skipped .any test skipped
  have someServed : (∃ usage ∈ usages, isInbound usage = false) ∨
      ∃ usage ∈ usages, isInbound usage = true := by
    obtain ⟨usage, member⟩ := List.exists_mem_of_ne_nil _ nonempty
    cases served : isInbound usage with
    | false => exact .inl ⟨usage, member, served⟩
    | true => exact .inr ⟨usage, member, served⟩
  refine ⟨Quantifier.join_of_skipped nonempty skipped, ?_, ?_⟩
  · simp only [DirectionIndicator.combine, partOf, Bool.not_eq_true']
    rcases someServed with outbound | inbound
    · rw [if_pos (.inl (if_pos outbound))]
    · rw [if_pos (.inr (if_pos inbound))]
  · simp only [DirectionIndicator.combine, partOf, Bool.not_eq_true', Quantifier.undecided]
    by_cases outbound : ∃ usage ∈ usages, isInbound usage = false
    · by_cases inbound : ∃ usage ∈ usages, isInbound usage = true
      · simp only [if_pos outbound, if_pos inbound, if_pos (And.intro outbound inbound)]
        rfl
      · simp only [if_pos outbound, if_neg inbound, if_neg (mt And.right inbound)]
        rfl
    · have inbound := someServed.resolve_left outbound
      simp only [if_neg outbound, if_pos inbound, if_neg (mt And.left outbound)]
      rfl

/-- With usages in both parts, a rule that applies to none of them is skipped. -/
theorem combine_of_skipped_round_trip :
    let usages : List (Bool × Outcome) := [(false, .skip), (true, .skip), (false, .skip)]
    usages ≠ [] ∧ (∀ usage ∈ usages, usage.2 = .skip) ∧
      DirectionIndicator.both.combine Prod.fst Prod.snd usages = .skip ∧
      DirectionIndicator.oneNotBoth.combine Prod.fst Prod.snd usages = .skip ∧
      DirectionIndicator.either.combine Prod.fst Prod.snd usages = .skip := by
  intro usages
  have nonempty : usages ≠ [] := by decide
  have skipped : ∀ usage ∈ usages, usage.2 = .skip := by decide
  obtain ⟨both, oneNotBoth, either⟩ :=
    combine_of_skipped_usages Prod.fst Prod.snd usages nonempty skipped
  exact ⟨nonempty, skipped, both, oneNotBoth, either.trans (if_pos (by decide))⟩

/-- A flight has to be used by way of a place that is not known. -/
def byUnknownPlace (direction : DirectionIndicator) : RuleRecord where
  vendor := "ATP"
  itemNo := 1
  application := .must
  slots := { first := .literal "DL" (-1) }
  geo := { viaItem := 7 }
  direction

/-- A rule that applies nowhere fails under EITHER where there is no way back, and only there. -/
theorem combine_either_of_skipped_one_way :
    let outcomeOn (direction : DirectionIndicator) (unit : PricingUnit) :=
      ((byUnknownPlace direction).compile .primary "ATP" {}).outcomeInUnit {} unit wayOut
    DirectionIndicator.either.combine Prod.fst Prod.snd [(false, Outcome.skip)] = .fail ∧
      outcomeOn .either ⟨[wayOut]⟩ = .fail ∧
      outcomeOn .both ⟨[wayOut]⟩ = .skip ∧
      outcomeOn .oneNotBoth ⟨[wayOut]⟩ = .skip ∧
      outcomeOn .either (returnBy (.air "DL" 2 default default)) = .skip := by
  decide

end FlightRule
