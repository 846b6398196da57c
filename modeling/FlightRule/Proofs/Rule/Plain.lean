import FlightRule.Proofs.Geo.Resolution
import FlightRule.Proofs.Rule.Slots
import FlightRule.Proofs.Rule.Witness

/-!
# Plain rules

A plain rule asks for flights and is restricted neither to a direction nor to a place.  On a
journey with a flight it always looks at its requirement, on all segments, so that its outcome
says whether the requirement is met (`RuleRecord.IsPlain.outcome_iff`).
-/

namespace FlightRule

/--
The data of the record are available, its flights have to be used, and neither a direction nor a
place restricts it.
-/
structure RuleRecord.IsPlain (record : RuleRecord) : Prop where
  available : record.availability = .available
  must : record.application = .must
  anyDirection : record.direction = .blank
  anyPlace : record.geo.isBlank = true

/-- The flown segments have the shape that the record asks for, if it asks for one. -/
def RuleRecord.HasShape (record : RuleRecord) (segments : List Segment) : Prop :=
  ∀ constraint ∈ ShapeConstraint.ofFlags record.shape record.geo.hidden,
    constraint.holds (segments.filter Segment.isFlown) [] = true

instance (record : RuleRecord) (segments : List Segment) : Decidable (record.HasShape segments) :=
  inferInstanceAs (Decidable (∀ constraint ∈ ShapeConstraint.ofFlags _ _, _ = true))

/-- The requirement of a record whose slots are compiled to some criteria. -/
def RuleRecord.requirementOf (record : RuleRecord) (criteria : Criteria) : Requirement where
  criteria := some criteria
  filters := record.filters
  shape := ShapeConstraint.ofFlags record.shape record.geo.hidden

variable
  {record : RuleRecord}
  {criteria : Criteria}
  {compileContext context : Context}
  {vendor : String}
  {itinerary : Itinerary}
  {segments : List Segment}

/-- Fields that name no place stand for the whole journey. -/
theorem GeoScope.resolve_of_isBlank
    {fields : GeoReferences}
    (blank : fields.isBlank = true) :
    resolve context vendor fields =
      .ok { hidden := fields.hidden, polarity := fields.viaPolarity } := by
  obtain ⟨⟨noBetween, noAnd⟩, noVia⟩ :
      (fields.betweenItem = 0 ∧ fields.andItem = 0) ∧ fields.viaItem = 0 := by
    simpa [GeoReferences.isBlank] using blank
  have noPoint : GeoPoint.resolve? context vendor 0 = .ok none := rfl
  have noFirst : fields.firstItem = 0 := by simp [GeoReferences.firstItem, noBetween]
  have noSecond : fields.secondItem = 0 := by simp [GeoReferences.secondItem, noAnd]
  rw [resolve_eq, noFirst, noSecond, noVia, noPoint]
  unfold arranged
  rw [noBetween, noAnd]
  cases fields.use <;> rfl

theorem RuleRecord.demand_of_criteria
    (available : record.availability = .available)
    (notBlank : record.application ≠ .blank)
    (built : (record.criteria context vendor).result = .ok criteria) :
    (record.demand context vendor).1 = .requires (record.requirementOf criteria) := by
  have builtSome : (some <$> record.criteria context vendor).result = .ok (some criteria) :=
    Build.result_bind_of_ok built (pure ∘ some)
  have required :
      (record.requirement context vendor).result = .ok (record.requirementOf criteria) := by
    rw [requirement, if_neg notBlank, Build.result_bind_of_ok builtSome]
    rfl
  simp only [demand, available, required]

namespace RuleRecord.IsPlain

/-- A plain rule looks at the whole journey. -/
theorem reaches
    (plain : record.IsPlain)
    (built : (record.criteria compileContext vendor).result = .ok criteria)
    (flown : ∃ segment ∈ itinerary.segments, segment.isFlown = true) :
    (record.compile .primary vendor compileContext).Reaches context itinerary
      (record.requirementOf criteria)
      { hidden := record.geo.hidden, polarity := record.geo.viaPolarity }
      ⟨0, itinerary.segments.length⟩ where
  demand_eq := demand_of_criteria plain.available (by simp [plain.must]) built
  undecided := by
    have noIndicator :
        (record.compile .primary vendor compileContext).indicator context = .blank := by
      simp [CompiledRule.indicator, compile, plain.anyDirection, DirectionIndicator.effective]
    rw [noIndicator]
    rfl
  reach_eq := by
    simp only [compile, reach, GeoScope.resolve_of_isBlank plain.anyPlace]
  window_eq := rfl
  flown := by
    simpa [Window.slice] using flown

/-- The outcome of a plain rule says whether its requirement is met. -/
theorem outcome_eq
    (plain : record.IsPlain)
    (built : (record.criteria compileContext vendor).result = .ok criteria)
    (flown : ∃ segment ∈ itinerary.segments, segment.isFlown = true) :
    (record.compile .primary vendor compileContext).outcome context itinerary =
      if (record.requirementOf criteria).isMet context itinerary.segments [] = true then .pass
      else .fail := by
  have reaches : (record.compile .primary vendor compileContext).Reaches context itinerary _ _ _ :=
    plain.reaches built flown
  have notTurned : (record.compile .primary vendor compileContext).turnsRound = false := by
    rw [CompiledRule.turnsRound, reaches.reach_eq]
    simp [Reach.forbidsPassage, GeoScope.forbidsPassage, compile, plain.must,
      Application.isNegative]
  have whole : (Window.mk 0 itinerary.segments.length).slice itinerary.segments =
      itinerary.segments := by
    simp [Window.slice]
  rw [CompiledRule.outcome_of_reaches reaches, notTurned, whole, Bool.bne_false]
  rfl

/--
A complete plain rule passes where the requirement of its record amounts to something true, and
fails elsewhere.
-/
theorem outcome_iff
    {verdict : Prop}
    (plain : record.IsPlain)
    (complete : record.IsComplete compileContext.tables vendor)
    (flown : ∃ segment ∈ itinerary.segments, segment.isFlown = true)
    (met_iff : ∀ conditions : record.Conditions compileContext.tables vendor,
      (record.requirementOf conditions.criteria).isMet context itinerary.segments [] = true ↔
        verdict) :
    ((record.compile .primary vendor compileContext).outcome context itinerary = .pass ↔
      verdict) ∧
    ((record.compile .primary vendor compileContext).outcome context itinerary = .fail ↔
      ¬verdict) := by
  have noRange : record.application.isRange = false := by
    rw [plain.must]
    rfl
  obtain ⟨conditions, built⟩ := exists_conditions noRange complete
  rw [plain.outcome_eq built flown]
  by_cases holds : verdict
  · rw [if_pos ((met_iff conditions).2 holds)]
    simp [holds]
  · rw [if_neg fun met => holds ((met_iff conditions).1 met)]
    simp [holds]

end RuleRecord.IsPlain

/-! ## Meeting a requirement -/

/-- The requirement of a record asks for its shape. -/
theorem RuleRecord.shapeMet_iff :
    (record.requirementOf criteria).shapeMet segments [] = true ↔ record.HasShape segments := by
  simp [Requirement.shapeMet, requirementOf, HasShape, Option.all_eq_true]

/--
A requirement is met when its criteria find something, speak about every flown segment unless some
conditions have to neighbour, and the shape is right.
-/
theorem RuleRecord.isMet_requirementOf_iff :
    (record.requirementOf criteria).isMet context segments [] = true ↔
      (criteria.spans record.filters context segments ≠ [] ∧
        (criteria.hasConnecting = true ∨
          criteria.covers record.filters context segments = true)) ∧
      record.HasShape segments := by
  rw [Requirement.isMet, Bool.and_eq_true, shapeMet_iff]
  simp [Requirement.criteriaMet, requirementOf]

end FlightRule
