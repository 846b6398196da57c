import FlightRule.Proofs.Geo.Checked
import FlightRule.Rule.Evaluate

/-!
# Evaluation with all positions checked

A rule cuts its window out of the itinerary before it looks at the flights in it.  Evaluated with
all positions checked, on the itinerary of a single fare as well as on a usage in a pricing unit, a
rule has the outcome that it has without the checks, so that none of them ever fails
(`checked_evaluation_eq`).
-/

namespace FlightRule
namespace Checked

/-- What a rule finds in a list of segments, given those of the other part of the unit. -/
def look
    (rule : CompiledRule)
    (requirement : Requirement)
    (context : Context)
    (segments opposite : List Segment) : Checked Finding :=
  match rule.reach with
  | .nowhere => return .outOfReach
  | .within scope => do
    let window? ← window scope segments
    match window? with
    | none => return .noWindow
    | some window =>
      let inside ← slice window segments
      let flown := inside.countP Segment.isFlown
      if flown = 0 then return .nothingFlown
      else
        return .judged flown (requirement.spans context inside)
          (rule.qualify context.settings
            ((CompiledRule.witness scope requirement context inside opposite).outcome
              rule.application))

/-- The outcome on the itinerary of a single fare. -/
def outcome (rule : CompiledRule) (context : Context) (itinerary : Itinerary) : Checked Outcome :=
  rule.finish <$>
    match rule.demand with
    | .fixed outcome => .ok outcome
    | .requires requirement =>
      match (rule.indicator context).checkMarket itinerary.direction with
      | some outcome => .ok outcome
      | none => Finding.outcome <$> look rule requirement context itinerary.segments []

variable {ι : Type}

/-- The joint outcome of the usages that remain. -/
def joinFrom
    (quantifier : Quantifier)
    (outcome : ι → Checked Outcome)
    (skipped : Bool) : List ι → Checked Outcome
  | [] => return if skipped then .skip else quantifier.undecided
  | usage :: usages => do
    let found ← outcome usage
    if found = .skip then joinFrom quantifier outcome true usages
    else if quantifier.decidedBy found then return found
    else joinFrom quantifier outcome false usages

/-- The joint outcome of an indicator on the usages of a pricing unit. -/
def combine
    (indicator : DirectionIndicator)
    (isInbound : ι → Bool)
    (outcome : ι → Checked Outcome)
    (usages : List ι) : Checked Outcome :=
  let join (usages : List ι) := joinFrom .any outcome false usages
  match indicator with
  | .both => joinFrom .all outcome false usages
  | .either => do
    let outboundOutcome ← join (usages.filter fun usage => !isInbound usage)
    if outboundOutcome = .pass then return .pass
    else
      let inboundOutcome ← join (usages.filter isInbound)
      return if inboundOutcome = .skip then outboundOutcome else inboundOutcome
  | .oneNotBoth => do
    let outboundOutcome ← join (usages.filter fun usage => !isInbound usage)
    let inboundOutcome ← join (usages.filter isInbound)
    return if outboundOutcome = .skip ∨ inboundOutcome = .skip then .skip
      else if outboundOutcome = inboundOutcome then .fail
      else .pass
  | .blank | .outbound | .inbound => return .fail

/-- The outcome on a usage in a pricing unit. -/
def outcomeInUnit
    (rule : CompiledRule)
    (context : Context)
    (unit : PricingUnit)
    (usage : FareUsage) : Checked Outcome :=
  rule.finish <$>
    match rule.demand with
    | .fixed outcome => .ok outcome
    | .requires requirement =>
      let outcomeOf (usage : FareUsage) : Checked Outcome :=
        Finding.outcome <$>
          look rule requirement context usage.itinerary.segments (unit.oppositeSegments usage)
      if (rule.indicator context).needsUnit then
        combine (rule.indicator context) FareUsage.inbound outcomeOf unit.fareUsages
      else
        match (rule.indicator context).checkUsage usage with
        | some outcome => .ok outcome
        | none => outcomeOf usage

/-! ## No check fails -/

theorem look_eq
    (rule : CompiledRule)
    (requirement : Requirement)
    (context : Context)
    (segments opposite : List Segment) :
    look rule requirement context segments opposite =
      .ok (rule.look requirement context segments opposite) := by
  unfold look CompiledRule.look
  cases rule.reach with
  | nowhere => rfl
  | within scope =>
      simp only [window_eq, ok_bind]
      cases found : scope.window segments with
      | none => rfl
      | some window =>
          obtain ⟨ordered, bounded, _⟩ := bounds_of_formWindow (GeoScope.formWindow_of_window found)
          simp only [slice_eq ordered bounded, ok_bind]
          split <;> rfl

/-- Checking a rule on a single fare never fails. -/
theorem outcome_eq (rule : CompiledRule) (context : Context) (itinerary : Itinerary) :
    outcome rule context itinerary = .ok (rule.outcome context itinerary) := by
  unfold outcome CompiledRule.outcome
  cases rule.demand with
  | fixed outcome => rfl
  | requires requirement =>
      simp only [look_eq]
      cases (rule.indicator context).checkMarket itinerary.direction <;> rfl

theorem joinFrom_eq
    (quantifier : Quantifier)
    (outcome : ι → Outcome)
    (skipped : Bool)
    (usages : List ι) :
    joinFrom quantifier (fun usage => .ok (outcome usage)) skipped usages =
      .ok (quantifier.joinFrom outcome skipped usages) := by
  induction usages generalizing skipped with
  | nil => rfl
  | cons usage usages inductionHypothesis =>
      rw [joinFrom, ok_bind, Quantifier.joinFrom, inductionHypothesis, inductionHypothesis]
      split
      · rfl
      · split <;> rfl

theorem join_eq (quantifier : Quantifier) (outcome : ι → Outcome) (usages : List ι) :
    joinFrom quantifier (fun usage => .ok (outcome usage)) false usages =
      .ok (quantifier.join outcome usages) :=
  joinFrom_eq quantifier outcome false usages

/-- Usages whose outcomes are found are combined without fail under every indicator. -/
theorem combine_eq
    (indicator : DirectionIndicator)
    (isInbound : ι → Bool)
    (outcome : ι → Outcome)
    (usages : List ι) :
    combine indicator isInbound (fun usage => .ok (outcome usage)) usages =
      .ok (indicator.combine isInbound outcome usages) := by
  unfold combine DirectionIndicator.combine
  cases indicator with
  | blank => rfl
  | outbound => rfl
  | inbound => rfl
  | both => exact join_eq .all outcome usages
  | either =>
      simp only [join_eq, ok_bind]
      split
      · rfl
      · rfl
  | oneNotBoth =>
      simp only [join_eq, ok_bind]
      rfl

/-- Checking a rule on a usage in a pricing unit never fails. -/
theorem outcomeInUnit_eq
    (rule : CompiledRule)
    (context : Context)
    (unit : PricingUnit)
    (usage : FareUsage) :
    outcomeInUnit rule context unit usage = .ok (rule.outcomeInUnit context unit usage) := by
  unfold outcomeInUnit CompiledRule.outcomeInUnit
  cases rule.demand with
  | fixed outcome => rfl
  | requires requirement =>
      have combined := combine_eq (rule.indicator context) FareUsage.inbound
        (fun usage => (rule.lookInUnit requirement context unit usage).outcome) unit.fareUsages
      simp only [look_eq]
      split
      · exact congrArg (rule.finish <$> ·) combined
      · cases (rule.indicator context).checkUsage usage <;> rfl

end Checked

/--
All positions that are used on the way to a window are in bounds: with each of them checked, the
same window is found.  A window stays inside the journey, and it has a segment unless it is the
whole of a journey without any.  So is the itinerary sliced in bounds wherever a rule is evaluated:
with the checks, every rule has the same outcome on every itinerary and on every usage in a pricing
unit.
-/
theorem checked_evaluation_eq (scope : GeoScope) (segments : List Segment) :
    Checked.window scope segments = .ok (scope.window segments) ∧
    (∀ window, scope.window segments = some window →
      window.start ≤ window.stop ∧ window.stop ≤ segments.length ∧
        (window.start < window.stop ∨ scope.form = .whole ∧ segments = [])) ∧
    ∀ (rule : CompiledRule) (context : Context),
      (∀ itinerary,
        Checked.outcome rule context itinerary = .ok (rule.outcome context itinerary)) ∧
      ∀ unit usage,
        Checked.outcomeInUnit rule context unit usage =
          .ok (rule.outcomeInUnit context unit usage) := by
  refine ⟨Checked.window_eq scope segments, ?_, fun rule context => ⟨?_, ?_⟩⟩
  · intro window found
    exact Checked.bounds_of_formWindow (GeoScope.formWindow_of_window found)
  · exact Checked.outcome_eq rule context
  · exact Checked.outcomeInUnit_eq rule context

/-- The window by way of a hidden stop is the last segment; on an empty journey there is none. -/
theorem checked_evaluation_of_stop :
    let scope := GeoScope.byWayOf [{ matcher := .airport "FRA" }] .yes .blank
    scope.window journeyWithStop = some ⟨2, 3⟩ ∧
      2 ≤ 3 ∧ 3 ≤ journeyWithStop.length ∧ (2 < 3 ∨ scope.form = .whole ∧ journeyWithStop = []) ∧
      Checked.window scope [] = .ok none := by
  intro scope
  have found : scope.window journeyWithStop = some ⟨2, 3⟩ := by decide
  obtain ⟨_, bounds, _⟩ := checked_evaluation_eq scope journeyWithStop
  obtain ⟨ordered, bounded, nonempty⟩ := bounds _ found
  exact ⟨found, ordered, bounded, nonempty, (checked_evaluation_eq scope []).1⟩

end FlightRule
