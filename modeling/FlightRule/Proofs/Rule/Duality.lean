import FlightRule.Proofs.Geo.Resolution
import FlightRule.Proofs.Rule.Witness

/-!
# Duality

A rule that forbids flights and the rule that asks for the same flights have opposite outcomes
wherever they look at their requirement, and the same outcome everywhere else.  To forbid the way
by a place has the same effect on the rules that name such a place, so that both changes together
change nothing.
-/

namespace FlightRule

/-- The application with use and avoidance of the flights exchanged. -/
def Application.opposite : Application → Application
  | blank => blank
  | must => mustNot
  | mustNot => must
  | mustRange => mustNotRange
  | mustNotRange => mustRange

/-- The record with the opposite application. -/
def RuleRecord.withOppositeApplication (record : RuleRecord) : RuleRecord :=
  { record with application := record.application.opposite }

/-- The record with another polarity of its places. -/
def RuleRecord.withPolarity (record : RuleRecord) (polarity : ViaPolarity) : RuleRecord :=
  { record with geo := { record.geo with viaPolarity := polarity } }

/-- The scope has a point that the window has to pass, or its window goes through points. -/
def GeoScope.NamesPassage (scope : GeoScope) : Prop :=
  scope.via.isSome = true ∨ ∃ points, scope.form = .through points

/-- The rule has a scope, and the scope names places on the way. -/
def CompiledRule.NamesPassage (rule : CompiledRule) : Prop :=
  ∃ scope, rule.reach = .within scope ∧ scope.NamesPassage

/-! ## The opposite application -/

namespace Application

@[simp] theorem isRange_opposite (application : Application) :
    application.opposite.isRange = application.isRange := by
  cases application <;> rfl

@[simp] theorem opposite_eq_blank_iff {application : Application} :
    application.opposite = .blank ↔ application = .blank := by
  cases application <;> simp [opposite]

theorem isNegative_opposite
    {application : Application}
    (notBlank : application ≠ .blank) :
    application.opposite.isNegative = !application.isNegative := by
  cases application with
  | blank => exact absurd rfl notBlank
  | must => rfl
  | mustNot => rfl
  | mustRange => rfl
  | mustNotRange => rfl

end Application

namespace RuleRecord

variable (record : RuleRecord) (context : Context) (vendor : String)

/-- The criteria ask whether the application is one of a range, and for nothing else of it. -/
theorem criteria_withOppositeApplication :
    record.withOppositeApplication.criteria context vendor = record.criteria context vendor := by
  unfold criteria readsRange withOppositeApplication
  simp only [Application.isRange_opposite]
  rfl

theorem demand_withOppositeApplication :
    record.withOppositeApplication.demand context vendor = record.demand context vendor := by
  unfold demand requirement
  rw [criteria_withOppositeApplication]
  simp only [withOppositeApplication, Application.opposite_eq_blank_iff]
  rfl

theorem alike_compile_withOppositeApplication (use : RuleUse) :
    (record.compile use vendor context).Alike
      (record.withOppositeApplication.compile use vendor context) where
  use_eq := rfl
  direction_eq := rfl
  demand_eq := congrArg Prod.fst (record.demand_withOppositeApplication context vendor)
  window_eq := fun _ => rfl

end RuleRecord

/-! ## The polarity of places -/

theorem GeoScope.arranged_viaPolarity
    (fields : GeoReferences)
    (first second via : Option GeoPoint)
    (polarity : ViaPolarity) :
    arranged { fields with viaPolarity := polarity } first second via =
      { arranged fields first second via with polarity } := by
  unfold arranged
  cases fields.use with
  | blank => rfl
  | betweenAnd => rfl
  | via => cases first <;> cases second <;> rfl

/-- The polarity has no part in finding the scope. -/
theorem GeoScope.resolve_viaPolarity
    (context : Context)
    (vendor : String)
    (fields : GeoReferences)
    (polarity : ViaPolarity) :
    GeoScope.resolve context vendor { fields with viaPolarity := polarity } =
      (GeoScope.resolve context vendor fields).map fun scope => { scope with polarity } := by
  have first_eq : { fields with viaPolarity := polarity }.firstItem = fields.firstItem := rfl
  have second_eq : { fields with viaPolarity := polarity }.secondItem = fields.secondItem := rfl
  rw [resolve_eq, resolve_eq, first_eq, second_eq]
  cases GeoPoint.resolve? context vendor fields.firstItem with
  | error issue => rfl
  | ok first =>
      cases GeoPoint.resolve? context vendor fields.secondItem with
      | error issue => rfl
      | ok second =>
          cases GeoPoint.resolve? context vendor fields.viaItem with
          | error issue => rfl
          | ok via =>
              exact congrArg Except.ok (arranged_viaPolarity fields first second via polarity)

/-- A scope forbids a passage that it names. -/
theorem GeoScope.forbidsPassage_iff {scope : GeoScope} :
    scope.forbidsPassage = true ↔ scope.polarity = .mustNot ∧ scope.NamesPassage := by
  unfold forbidsPassage NamesPassage
  cases scope.form <;> simp

namespace RuleRecord

variable {record : RuleRecord} {context : Context} {vendor : String} {use : RuleUse}

/-- The polarity has no effect on where a rule applies. -/
theorem reach_withPolarity (polarity : ViaPolarity) :
    ((record.withPolarity polarity).reach context vendor).1 =
      match (record.reach context vendor).1 with
      | .nowhere => .nowhere
      | .within scope => .within { scope with polarity } := by
  unfold reach withPolarity
  simp only [GeoScope.resolve_viaPolarity]
  cases GeoScope.resolve context vendor record.geo <;> rfl

theorem alike_compile_withPolarity (polarity : ViaPolarity) :
    (record.compile use vendor context).Alike
      ((record.withPolarity polarity).compile use vendor context) where
  use_eq := rfl
  direction_eq := rfl
  demand_eq := rfl
  window_eq := by
    intro segments
    simp only [compile, reach_withPolarity]
    cases (record.reach context vendor).1 <;> rfl

/-- A rule forbids the way by a place if its polarity says so and it names such a place. -/
theorem forbidsPassage_compile_iff :
    (record.compile use vendor context).reach.forbidsPassage = true ↔
      record.geo.viaPolarity = .mustNot ∧
        (record.compile use vendor context).NamesPassage := by
  unfold CompiledRule.NamesPassage
  simp only [compile, reach]
  cases resolved : GeoScope.resolve context vendor record.geo with
  | error issue => simp [Reach.forbidsPassage]
  | ok scope =>
      rw [← (GeoScope.suits_of_resolve resolved).polarity_eq]
      simp [Reach.forbidsPassage, GeoScope.forbidsPassage_iff]

theorem namesPassage_compile_withPolarity_iff (polarity : ViaPolarity) :
    ((record.withPolarity polarity).compile use vendor context).NamesPassage ↔
      (record.compile use vendor context).NamesPassage := by
  unfold CompiledRule.NamesPassage
  simp only [compile, reach_withPolarity]
  cases (record.reach context vendor).1 with
  | nowhere => simp
  | within scope => simp [GeoScope.NamesPassage]

/-- The opposite rule turns its finding round exactly where the rule does not. -/
theorem turnsRound_withOppositeApplication
    (notBlank : record.application ≠ .blank) :
    (record.withOppositeApplication.compile use vendor context).turnsRound =
      !(record.compile use vendor context).turnsRound := by
  change (record.application.opposite.isNegative != _) = !(record.application.isNegative != _)
  rw [Application.isNegative_opposite notBlank, Bool.not_bne]
  rfl

/-- Going over to the other polarity turns round what names places on the way. -/
theorem turnsRound_withPolarity_iff
    {polarity : ViaPolarity}
    (changed : polarity = .mustNot ↔ record.geo.viaPolarity ≠ .mustNot) :
    ((record.withPolarity polarity).compile use vendor context).turnsRound =
        (record.compile use vendor context).turnsRound ↔
      ¬(record.compile use vendor context).NamesPassage := by
  have before : (record.compile use vendor context).reach.forbidsPassage = true ↔ _ :=
    forbidsPassage_compile_iff
  have after :
      ((record.withPolarity polarity).compile use vendor context).reach.forbidsPassage = true ↔ _ :=
    forbidsPassage_compile_iff
  rw [namesPassage_compile_withPolarity_iff] at after
  have sameSign :
      ((record.withPolarity polarity).compile use vendor context).turnsRound =
          (record.compile use vendor context).turnsRound ↔
        (((record.withPolarity polarity).compile use vendor context).reach.forbidsPassage = true ↔
          (record.compile use vendor context).reach.forbidsPassage = true) := by
    rw [← Bool.eq_iff_iff]
    exact Bool.bne_right_inj
  rw [sameSign, after, before]
  change (polarity = .mustNot ∧ _ ↔ _) ↔ _
  rw [changed]
  by_cases names : (record.compile use vendor context).NamesPassage
  · simp only [names, and_true, not_true_eq_false, iff_false]
    by_cases forbids : record.geo.viaPolarity = .mustNot <;> simp [forbids]
  · simp [names]

/-! ## Outcomes -/

variable {evaluation : Context} {itinerary : Itinerary}

/-- Where a rule comes to a finding, the opposite rule has the opposite outcome. -/
theorem outcome_withOppositeApplication_of_reachesWitness
    (notBlank : record.application ≠ .blank)
    (reaches : (record.compile use vendor context).ReachesWitness evaluation itinerary) :
    (record.withOppositeApplication.compile use vendor context).outcome evaluation itinerary =
      ((record.compile use vendor context).outcome evaluation itinerary).negate := by
  rw [(record.alike_compile_withOppositeApplication context vendor use).outcome_of_reachesWitness
    reaches, turnsRound_withOppositeApplication notBlank]
  exact if_neg (by simp)

/--
Where a rule that names a passage comes to a finding, the other polarity has the opposite outcome.
-/
theorem outcome_withPolarity_of_reachesWitness
    {polarity : ViaPolarity}
    (changed : polarity = .mustNot ↔ record.geo.viaPolarity ≠ .mustNot)
    (reaches : (record.compile use vendor context).ReachesWitness evaluation itinerary)
    (names : (record.compile use vendor context).NamesPassage) :
    ((record.withPolarity polarity).compile use vendor context).outcome evaluation itinerary =
      ((record.compile use vendor context).outcome evaluation itinerary).negate := by
  rw [(alike_compile_withPolarity polarity).outcome_of_reachesWitness reaches]
  exact if_neg fun same => (turnsRound_withPolarity_iff changed).1 same names

/-- Everywhere else the other polarity has the same outcome. -/
theorem outcome_withPolarity_of_not_namesPassage
    {polarity : ViaPolarity}
    (changed : polarity = .mustNot ↔ record.geo.viaPolarity ≠ .mustNot)
    (untouched : ¬((record.compile use vendor context).ReachesWitness evaluation itinerary ∧
      (record.compile use vendor context).NamesPassage)) :
    ((record.withPolarity polarity).compile use vendor context).outcome evaluation itinerary =
      (record.compile use vendor context).outcome evaluation itinerary := by
  by_cases reaches : (record.compile use vendor context).ReachesWitness evaluation itinerary
  · rw [(alike_compile_withPolarity polarity).outcome_of_reachesWitness reaches]
    exact if_pos ((turnsRound_withPolarity_iff changed).2 fun names => untouched ⟨reaches, names⟩)
  · exact (alike_compile_withPolarity polarity).outcome_of_not_reachesWitness reaches

end RuleRecord

/--
A rule and its opposite have opposite outcomes where they look at their requirement, and one
outcome elsewhere.  Forbidding the way by a place turns the outcome round in the same way, for the
rules that name such a place.  Doing both to such a rule changes no outcome.
-/
theorem outcome_duality
    (record : RuleRecord)
    (use : RuleUse)
    (vendor : String)
    (compileContext context : Context)
    (itinerary : Itinerary) :
    let rule := record.compile use vendor compileContext
    let outcomeOf (record : RuleRecord) :=
      (record.compile use vendor compileContext).outcome context itinerary
    (rule.ReachesWitness context itinerary →
      outcomeOf record = .pass ∨ outcomeOf record = .fail) ∧
    (record.application ≠ .blank →
      (rule.ReachesWitness context itinerary →
        outcomeOf record.withOppositeApplication = (outcomeOf record).negate) ∧
      (¬rule.ReachesWitness context itinerary →
        outcomeOf record.withOppositeApplication = outcomeOf record)) ∧
    (record.geo.viaPolarity ≠ .mustNot →
      (rule.ReachesWitness context itinerary ∧ rule.NamesPassage →
        outcomeOf (record.withPolarity .mustNot) = (outcomeOf record).negate) ∧
      (¬(rule.ReachesWitness context itinerary ∧ rule.NamesPassage) →
        outcomeOf (record.withPolarity .mustNot) = outcomeOf record)) ∧
    ∀ polarity, (polarity = .mustNot ↔ record.geo.viaPolarity ≠ .mustNot) →
      record.application ≠ .blank → rule.NamesPassage →
        outcomeOf (record.withPolarity polarity).withOppositeApplication = outcomeOf record := by
  intro rule outcomeOf
  refine ⟨CompiledRule.outcome_pass_or_fail_of_reachesWitness, ?_, ?_, ?_⟩
  · intro notBlank
    constructor
    · exact RuleRecord.outcome_withOppositeApplication_of_reachesWitness notBlank
    · exact (record.alike_compile_withOppositeApplication _ _ _).outcome_of_not_reachesWitness
  · intro notForbidden
    have changed : ViaPolarity.mustNot = .mustNot ↔ record.geo.viaPolarity ≠ .mustNot := by
      simp [notForbidden]
    constructor
    · rintro ⟨reaches, names⟩
      exact RuleRecord.outcome_withPolarity_of_reachesWitness changed reaches names
    · exact RuleRecord.outcome_withPolarity_of_not_namesPassage changed
  · intro polarity changed notBlank names
    have polarityAlike : rule.Alike _ := RuleRecord.alike_compile_withPolarity polarity
    by_cases reaches : rule.ReachesWitness context itinerary
    · have negated : outcomeOf (record.withPolarity polarity) = (outcomeOf record).negate :=
        RuleRecord.outcome_withPolarity_of_reachesWitness changed reaches names
      have negatedAgain : outcomeOf (record.withPolarity polarity).withOppositeApplication =
          (outcomeOf (record.withPolarity polarity)).negate :=
        RuleRecord.outcome_withOppositeApplication_of_reachesWitness notBlank
          (polarityAlike.reachesWitness_iff.2 reaches)
      rw [negatedAgain, negated, Outcome.negate_negate]
    · have kept : outcomeOf (record.withPolarity polarity) = outcomeOf record :=
        polarityAlike.outcome_of_not_reachesWitness reaches
      have keptAgain : outcomeOf (record.withPolarity polarity).withOppositeApplication =
          outcomeOf (record.withPolarity polarity) :=
        (RuleRecord.alike_compile_withOppositeApplication _ _ _ _).outcome_of_not_reachesWitness
          fun otherReaches => reaches (polarityAlike.reachesWitness_iff.1 otherReaches)
      rw [keptAgain, kept]

/-- The journey has to pass a place. -/
def byPlace : RuleRecord where
  vendor := "ATP"
  itemNo := 1
  application := .must
  geo := { viaItem := 7 }

/-- A transaction in which every geographic item is one airport. -/
def oneAirport : Context where
  geography := ⟨fun vendor itemNo => some ⟨vendor, itemNo, .airport "ORD", 0⟩, fun _ => none⟩

/-- A journey with a connection at that airport. -/
def byConnection : Itinerary where
  segments := [
    .air "DL" 1 (.ofAirport "JFK" "US" "1") (.ofAirport "ORD" "US" "1"),
    .air "DL" 2 (.ofAirport "ORD" "US" "1") (.ofAirport "LAX" "US" "1")]

/-- On the way by the place, every single change makes the pass a fail, and both together do not. -/
theorem outcome_by_place :
    let rule := byPlace.compile .primary "ATP" oneAirport
    let outcomeOf (record : RuleRecord) :=
      (record.compile .primary "ATP" oneAirport).outcome oneAirport byConnection
    rule.ReachesWitness oneAirport byConnection ∧ rule.NamesPassage ∧
      outcomeOf byPlace = .pass ∧
      outcomeOf byPlace.withOppositeApplication = .fail ∧
      outcomeOf (byPlace.withPolarity .mustNot) = .fail ∧
      outcomeOf (byPlace.withPolarity .mustNot).withOppositeApplication = .pass := by
  intro rule outcomeOf
  have reaches : rule.ReachesWitness oneAirport byConnection :=
    ⟨_, _, ⟨0, 2⟩, rfl, rfl, rfl, by decide, by decide⟩
  have names : rule.NamesPassage := ⟨_, rfl, .inl rfl⟩
  have passes : outcomeOf byPlace = .pass := by decide
  obtain ⟨_, opposite, polarity, both⟩ :=
    outcome_duality byPlace .primary "ATP" oneAirport oneAirport byConnection
  refine ⟨reaches, names, passes, ?_, ?_, ?_⟩
  · exact ((opposite (by decide)).1 reaches).trans (congrArg Outcome.negate passes)
  · exact ((polarity (by decide)).1 ⟨reaches, names⟩).trans (congrArg Outcome.negate passes)
  · exact (both .mustNot (by decide) (by decide) names).trans passes

end FlightRule
