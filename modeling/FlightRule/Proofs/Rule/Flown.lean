import FlightRule.Proofs.Criteria.Flown
import FlightRule.Proofs.Geo.Ends
import FlightRule.Proofs.Rule.Agreement
import FlightRule.Proofs.Rule.Connecting
import FlightRule.Proofs.Rule.Defects
import FlightRule.Proofs.Rule.Journey
import FlightRule.Proofs.Rule.Unit
import FlightRule.Proofs.Shape.Order

/-!
# Rules and flown segments

A rule that looks at the whole journey judges the flown segments.  Unless some of its conditions
have to hold on neighbouring segments, neither the order of the flights nor the other segments
matter, on a single fare and in a pricing unit (`outcome_of_same_flown`).  With CONNECTING, other
segments can only part what would adjoin without them: what is found on a journey is also found
when they are left out (`outcome_of_flownOnly`).
-/

namespace FlightRule

/-! ## Journeys with the same flights -/

/-- Two itineraries have the same flown segments, in some order, and the same direction. -/
structure Itinerary.SameFlown (itinerary other : Itinerary) : Prop where
  direction_eq : itinerary.direction = other.direction
  perm : (itinerary.segments.filter Segment.isFlown).Perm (other.segments.filter Segment.isFlown)

/-- Two usages serve the same part of their units on itineraries with the same flown segments. -/
structure FareUsage.SameFlown (usage other : FareUsage) : Prop where
  inbound_eq : usage.inbound = other.inbound
  itinerary : usage.itinerary.SameFlown other.itinerary

/-- The usages of two units have the same flown segments, one by one. -/
def PricingUnit.SameFlown (unit other : PricingUnit) : Prop :=
  List.Forall₂ FareUsage.SameFlown unit.fareUsages other.fareUsages

/-- The itinerary without the segments that are not flown. -/
def Itinerary.flownOnly (itinerary : Itinerary) : Itinerary where
  segments := itinerary.segments.filter Segment.isFlown
  direction := itinerary.direction

/-- The other parts of units with the same flown segments have the same flown segments. -/
theorem PricingUnit.SameFlown.oppositeSegments_perm
    {unit otherUnit : PricingUnit}
    {usage otherUsage : FareUsage}
    (units : unit.SameFlown otherUnit)
    (usages : usage.SameFlown otherUsage) :
    ((unit.oppositeSegments usage).filter Segment.isFlown).Perm
      ((otherUnit.oppositeSegments otherUsage).filter Segment.isFlown) := by
  unfold oppositeSegments
  unfold SameFlown at units
  generalize unit.fareUsages = fares, otherUnit.fareUsages = otherFares at units ⊢
  induction units with
  | nil => exact .nil
  | @cons first otherFirst rest otherRest same _ restPerm =>
      rw [List.filter_cons, List.filter_cons, same.inbound_eq, usages.inbound_eq]
      rw [usages.inbound_eq] at restPerm
      split
      · simp only [List.flatMap_cons, List.filter_append]
        exact same.itinerary.perm.append restPerm
      · exact restPerm

/-! ## Requirements -/

namespace Requirement

variable
  {requirement : Requirement}
  {context : Context}
  {segments others opposite otherOpposite : List Segment}

/-- Without CONNECTING, a requirement is met by all journeys with the same flights or by none. -/
theorem isMet_of_perm
    (noConnecting : ∀ criteria ∈ requirement.criteria, criteria.hasConnecting = false)
    (perm : (segments.filter Segment.isFlown).Perm (others.filter Segment.isFlown))
    (oppositePerm :
      (opposite.filter Segment.isFlown).Perm (otherOpposite.filter Segment.isFlown)) :
    requirement.isMet context segments opposite =
      requirement.isMet context others otherOpposite := by
  have same : Segment.SameFlown segments others := Segment.sameFlown_of_perm perm
  have criteriaSame : requirement.criteriaMet context segments =
      requirement.criteriaMet context others := by
    unfold criteriaMet
    cases criteria_eq : requirement.criteria with
    | none => exact perm.all_eq
    | some criteria =>
        have findsSame :
            (criteria.spans requirement.filters context segments).isEmpty =
              (criteria.spans requirement.filters context others).isEmpty := by
          rw [Bool.eq_iff_iff, List.isEmpty_iff, List.isEmpty_iff]
          exact Criteria.spans_eq_nil_iff_of_sameFlown (noConnecting criteria criteria_eq) same
        simp only [findsSame, Criteria.covers_of_sameFlown same]
  rw [isMet, isMet, criteriaSame, shapeMet_of_perm perm oppositePerm]

/-- A requirement that is met is also met by the flown segments alone. -/
theorem isMet_flown
    (noHidden : ∀ criteria ∈ requirement.criteria, criteria.hasHiddenConnection = false)
    (met : requirement.isMet context segments opposite = true) :
    requirement.isMet context (segments.filter Segment.isFlown) opposite = true := by
  have twice : (segments.filter Segment.isFlown).filter Segment.isFlown =
      segments.filter Segment.isFlown := by
    simp
  rw [isMet, Bool.and_eq_true] at met ⊢
  obtain ⟨onCriteria, onShape⟩ := met
  constructor
  · unfold criteriaMet at *
    cases criteria_eq : requirement.criteria with
    | none =>
        rw [criteria_eq] at onCriteria
        simpa only [twice] using onCriteria
    | some criteria =>
        simp only [criteria_eq, Bool.and_eq_true, Bool.not_eq_true', List.isEmpty_eq_false_iff]
          at onCriteria ⊢
        obtain ⟨finds, covered⟩ := onCriteria
        refine ⟨Criteria.spans_flown_ne_nil (noHidden criteria criteria_eq) finds, ?_⟩
        rwa [← Criteria.covers_of_sameFlown Segment.sameFlown_filter]
  · rw [shapeMet, twice]
    exact onShape

end Requirement

/-! ## Rules on the whole journey -/

/-- The rule applies to the whole journey and asks for no place on its way. -/
def CompiledRule.LooksAtWhole (rule : CompiledRule) : Prop :=
  ∃ scope, rule.reach = .within scope ∧ scope.form = .whole ∧ scope.via = none

/--
A rule that looks at the whole journey passes where nothing is flown, and judges its requirement
elsewhere.
-/
theorem CompiledRule.outcome_look_of_whole
    {rule : CompiledRule}
    (whole : rule.LooksAtWhole)
    (requirement : Requirement)
    (context : Context)
    (segments opposite : List Segment) :
    (rule.look requirement context segments opposite).outcome =
      if (segments.filter Segment.isFlown).length = 0 then .pass
      else if requirement.isMet context segments opposite != rule.application.isNegative then .pass
      else .fail := by
  obtain ⟨scope, reach_eq, form_eq, noVia⟩ := whole
  have window_eq : rule.reach.window segments = some ⟨0, segments.length⟩ := by
    rw [reach_eq, Reach.window, GeoScope.window_of_via_eq_none noVia, form_eq]
    rfl
  have slice_eq : (Window.mk 0 segments.length).slice segments = segments := by
    simp [Window.slice]
  have notForbidden : rule.reach.forbidsPassage = false := by
    simp [reach_eq, Reach.forbidsPassage, GeoScope.forbidsPassage, form_eq, noVia]
  simp only [outcome_look, turnsRound, window_eq, Option.elim_some, slice_eq, notForbidden,
    Bool.bne_false, List.countP_eq_length_filter]

/--
Without CONNECTING, a rule that looks at whole journeys finds the same whatever the order of the
flights.
-/
theorem CompiledRule.look_of_perm
    {rule : CompiledRule}
    {requirement : Requirement}
    {context : Context}
    {segments others opposite otherOpposite : List Segment}
    (whole : rule.LooksAtWhole)
    (noConnecting : ∀ criteria ∈ requirement.criteria, criteria.hasConnecting = false)
    (perm : (segments.filter Segment.isFlown).Perm (others.filter Segment.isFlown))
    (oppositePerm :
      (opposite.filter Segment.isFlown).Perm (otherOpposite.filter Segment.isFlown)) :
    (rule.look requirement context segments opposite).outcome =
      (rule.look requirement context others otherOpposite).outcome := by
  rw [outcome_look_of_whole whole, outcome_look_of_whole whole, perm.length_eq,
    Requirement.isMet_of_perm noConnecting perm oppositePerm]

/--
Where segments that are not flown are left out, a rule that asks for something on the whole journey
still passes if it did, and one that forbids something still fails.
-/
theorem CompiledRule.look_flown
    {rule : CompiledRule}
    {requirement : Requirement}
    {context : Context}
    {segments opposite : List Segment}
    (whole : rule.LooksAtWhole)
    (noHidden : ∀ criteria ∈ requirement.criteria, criteria.hasHiddenConnection = false) :
    let found := (rule.look requirement context segments opposite).outcome
    let foundFlown :=
      (rule.look requirement context (segments.filter Segment.isFlown) opposite).outcome
    (rule.application.isNegative = false → found = .pass → foundFlown = .pass) ∧
      (rule.application.isNegative = true → found = .fail → foundFlown = .fail) := by
  intro found foundFlown
  have sameLength : ((segments.filter Segment.isFlown).filter Segment.isFlown).length =
      (segments.filter Segment.isFlown).length := by
    simp
  have found_eq : found = _ := outcome_look_of_whole whole requirement context segments opposite
  have foundFlown_eq : foundFlown = _ :=
    outcome_look_of_whole whole requirement context (segments.filter Segment.isFlown) opposite
  rw [sameLength] at foundFlown_eq
  rw [found_eq, foundFlown_eq]
  by_cases noneFlown : (segments.filter Segment.isFlown).length = 0
  · simp [noneFlown]
  · rw [if_neg noneFlown, if_neg noneFlown]
    cases met : requirement.isMet context segments opposite with
    | true =>
        rw [Requirement.isMet_flown noHidden met]
        exact ⟨fun _ passes => passes, fun _ fails => fails⟩
    | false =>
        constructor
        · intro positive passes
          simp [positive] at passes
        · intro negative fails
          simp [negative] at fails

/-- What the direction of a usage decides does not depend on its segments. -/
theorem DirectionIndicator.checkUsage_of_same_flown
    {usage other : FareUsage}
    (indicator : DirectionIndicator)
    (usages : usage.SameFlown other) :
    indicator.checkUsage usage = indicator.checkUsage other :=
  indicator.checkUsage_congr usages.itinerary.direction_eq usages.inbound_eq

/--
The order of flights has no effect on a rule without CONNECTING that looks at the whole journey, and
neither have segments that are not flown.  Itineraries in one direction with the same flights have
the same outcome, and so have usages in pricing units that correspond usage by usage in this way.
-/
theorem outcome_of_same_flown
    (rule : CompiledRule)
    (context : Context)
    (whole : rule.LooksAtWhole)
    (noConnecting : ∀ requirement ∈ rule.requirement?, ∀ criteria ∈ requirement.criteria,
      criteria.hasConnecting = false) :
    (∀ itinerary other : Itinerary, itinerary.SameFlown other →
      rule.outcome context itinerary = rule.outcome context other) ∧
    ∀ (unit otherUnit : PricingUnit) (usage otherUsage : FareUsage),
      unit.SameFlown otherUnit → usage.SameFlown otherUsage →
        rule.outcomeInUnit context unit usage =
          rule.outcomeInUnit context otherUnit otherUsage := by
  unfold CompiledRule.outcome CompiledRule.outcomeInUnit
  unfold CompiledRule.requirement? at noConnecting
  cases demand_eq : rule.demand with
  | fixed outcome => exact ⟨fun _ _ _ => rfl, fun _ _ _ _ _ _ => rfl⟩
  | requires requirement =>
      rw [demand_eq] at noConnecting
      have requirementNot := noConnecting requirement rfl
      constructor
      · intro itinerary other same
        simp only [same.direction_eq,
          CompiledRule.look_of_perm whole requirementNot same.perm (.refl ([].filter _))]
      · intro unit otherUnit usage otherUsage units usages
        have lookSame {usage otherUsage : FareUsage} (usages : usage.SameFlown otherUsage) :
            (rule.lookInUnit requirement context unit usage).outcome =
              (rule.lookInUnit requirement context otherUnit otherUsage).outcome :=
          CompiledRule.look_of_perm whole requirementNot usages.itinerary.perm
            (units.oppositeSegments_perm usages)
        have combineSame := (rule.indicator context).combine_congr
          (units.imp fun usage other usages => ⟨usages.inbound_eq, lookSame usages⟩)
        simp only [combineSame, lookSame usages,
          (rule.indicator context).checkUsage_of_same_flown usages]

/-- Flights of two carriers, of which none is used twice. -/
def twoCarriersOnce : RuleRecord := { twoCarriers with shape := { sameFlight := .invalid } }

/-- One flight of each of the two carriers. -/
def oneOfEach : Itinerary where
  segments := [.air "DL" 1 default default, .air "AA" 2 default default]

/-- The same flights the other way round, with travel on the ground and an open flight. -/
def oneOfEachTurned : Itinerary where
  segments := [.air "AA" 2 default default, .surface default default, .air "DL" 1 default default,
    .openFlight "UA" default default]

/-- What is used on the way out and again on the way back, in either order, fails in the unit. -/
theorem outcome_of_turned_flights :
    let rule := twoCarriersOnce.compile .primary "ATP" {}
    let unit (itinerary : Itinerary) : PricingUnit := ⟨[⟨itinerary, false⟩, ⟨itinerary, true⟩]⟩
    rule.LooksAtWhole ∧
      (∀ requirement ∈ rule.requirement?, ∀ criteria ∈ requirement.criteria,
        criteria.hasConnecting = false) ∧
      oneOfEach.SameFlown oneOfEachTurned ∧
      rule.outcome {} oneOfEachTurned = .pass ∧
      (unit oneOfEach).SameFlown (unit oneOfEachTurned) ∧
      rule.outcomeInUnit {} (unit oneOfEachTurned) ⟨oneOfEachTurned, false⟩ = .fail := by
  intro rule unit
  have whole : rule.LooksAtWhole := ⟨_, rfl, rfl, rfl⟩
  have noConnecting : ∀ requirement ∈ rule.requirement?, ∀ criteria ∈ requirement.criteria,
      criteria.hasConnecting = false := by
    decide
  have same : oneOfEach.SameFlown oneOfEachTurned := ⟨rfl, .swap _ _ []⟩
  have usageSame (inbound : Bool) :
      FareUsage.SameFlown ⟨oneOfEach, inbound⟩ ⟨oneOfEachTurned, inbound⟩ := ⟨rfl, same⟩
  have unitSame : (unit oneOfEach).SameFlown (unit oneOfEachTurned) :=
    .cons (usageSame false) (.cons (usageSame true) .nil)
  obtain ⟨outcomeSame, inUnitSame⟩ := outcome_of_same_flown rule {} whole noConnecting
  refine ⟨whole, noConnecting, same, ?_, unitSame, ?_⟩
  · rw [← outcomeSame oneOfEach oneOfEachTurned same]
    decide
  · rw [← inUnitSame _ _ _ _ unitSame (usageSame false)]
    decide

/-! ## Rules of records -/

namespace RuleRecord

variable
  {record : RuleRecord}
  {context : Context}
  {vendor : String}

/-- The criteria that a record is compiled to are a chain. -/
theorem exists_chain_of_criteria
    {criteria : Criteria}
    (built : (record.criteria context vendor).result = .ok criteria) :
    ∃ first second third, criteria = .chain first second third := by
  rw [criteria_eq, Build.result_bind_eq_ok_iff] at built
  obtain ⟨_, _, built⟩ := built
  split at built
  · simp only [Build.result_bind_eq_ok_iff] at built
    obtain ⟨first, _, third, _, chained⟩ := built
    exact ⟨first, none, third, (Except.ok.inj chained).symm⟩
  · simp only [Build.result_bind_eq_ok_iff] at built
    obtain ⟨first, _, second, _, third, _, chained⟩ := built
    exact ⟨first, second, third, (Except.ok.inj chained).symm⟩

/-- The criteria of a rule are a chain of conditions. -/
theorem exists_chain_of_requirement
    {requirement : Requirement}
    {criteria : Criteria}
    (built : (record.requirement context vendor).result = .ok requirement)
    (asked : requirement.criteria = some criteria) :
    ∃ first second third, criteria = .chain first second third := by
  rw [requirement_eq] at built
  simp only [Build.result_bind_eq_ok_iff] at built
  obtain ⟨criteria?, builtCriteria, _, _, required⟩ := built
  obtain rfl : criteria? = some criteria := by
    rw [← asked, ← Except.ok.inj required]
  split at builtCriteria
  · cases builtCriteria
  · obtain ⟨chained, builtChain, same⟩ := Build.result_bind_eq_ok_iff.1 builtCriteria
    obtain rfl : chained = criteria := Option.some.inj (Except.ok.inj same)
    exact exists_chain_of_criteria builtChain

/-- No rule of a record goes on with a CONNECTING from an OR that asks for a connection. -/
theorem hasHiddenConnection_of_demand
    {requirement : Requirement}
    {criteria : Criteria}
    (demand_eq : (record.demand context vendor).1 = .requires requirement)
    (asked : requirement.criteria = some criteria) :
    criteria.hasHiddenConnection = false := by
  obtain ⟨first, second, third, rfl⟩ :=
    exists_chain_of_requirement (record.result_requirement_of_demand demand_eq) asked
  exact Criteria.hasHiddenConnection_chain first second third

end RuleRecord

/--
Segments that are not flown can do nothing but part flights.  If the rule of a record looks at the
whole journey, then what it requires of an itinerary is also met when they are left out, and what
it forbids is also found then.
-/
theorem outcome_of_flownOnly
    (record : RuleRecord)
    (vendor : String)
    (compileContext context : Context)
    (itinerary : Itinerary)
    (whole : (record.compile .primary vendor compileContext).LooksAtWhole) :
    let rule := record.compile .primary vendor compileContext
    (record.application.isNegative = false →
      rule.outcome context itinerary = .pass →
        rule.outcome context itinerary.flownOnly = .pass) ∧
    (record.application.isNegative = true →
      rule.outcome context itinerary = .fail →
        rule.outcome context itinerary.flownOnly = .fail) := by
  intro rule
  unfold CompiledRule.outcome
  cases demand_eq : rule.demand with
  | fixed outcome => exact ⟨fun _ passes => passes, fun _ fails => fails⟩
  | requires requirement =>
      have direction_eq : itinerary.flownOnly.direction = itinerary.direction := rfl
      rw [direction_eq]
      cases (rule.indicator context).checkMarket itinerary.direction with
      | some outcome => exact ⟨fun _ passes => passes, fun _ fails => fails⟩
      | none =>
          exact CompiledRule.look_flown whole fun criteria asked =>
            RuleRecord.hasHiddenConnection_of_demand demand_eq asked

/-- Two flights that connect, with travel on the ground ahead of them and behind. -/
def connectionByGround : Itinerary where
  segments := [.surface default default, .air "DL" 1 default default,
    .air "AA" 2 default default, .surface default default]

/-- Whether the connection is required or forbidden, travel on the ground elsewhere is nothing. -/
theorem outcome_of_ground_elsewhere :
    let forbidden := { carrierChange with application := .mustNot }
    (carrierChange.compile .primary "ATP" {}).LooksAtWhole ∧
      (forbidden.compile .primary "ATP" {}).LooksAtWhole ∧
      (carrierChange.compile .primary "ATP" {}).outcome {} connectionByGround = .pass ∧
      (carrierChange.compile .primary "ATP" {}).outcome {} connectionByGround.flownOnly = .pass ∧
      (forbidden.compile .primary "ATP" {}).outcome {} connectionByGround = .fail ∧
      (forbidden.compile .primary "ATP" {}).outcome {} connectionByGround.flownOnly = .fail := by
  intro forbidden
  have whole : (carrierChange.compile .primary "ATP" {}).LooksAtWhole := ⟨_, rfl, rfl, rfl⟩
  have forbiddenWhole : (forbidden.compile .primary "ATP" {}).LooksAtWhole := ⟨_, rfl, rfl, rfl⟩
  have passes :
      (carrierChange.compile .primary "ATP" {}).outcome {} connectionByGround = .pass := by
    decide
  have fails : (forbidden.compile .primary "ATP" {}).outcome {} connectionByGround = .fail := by
    decide
  refine ⟨whole, forbiddenWhole, passes, ?_, fails, ?_⟩
  · exact (outcome_of_flownOnly carrierChange "ATP" {} {} connectionByGround whole).1 rfl passes
  · exact (outcome_of_flownOnly forbidden "ATP" {} {} connectionByGround forbiddenWhole).2 rfl fails

/-- Between the two flights, travel on the ground makes the difference. -/
example :
    let itinerary : Itinerary :=
      ⟨[.air "DL" 1 default default, .surface default default, .air "AA" 2 default default],
        .unknown⟩
    (carrierChange.compile .primary "ATP" {}).outcome {} itinerary = .fail ∧
      (carrierChange.compile .primary "ATP" {}).outcome {} itinerary.flownOnly = .pass := by
  decide

end FlightRule
