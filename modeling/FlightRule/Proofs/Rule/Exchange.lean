import FlightRule.Proofs.Geo.Resolution
import FlightRule.Proofs.Rule.Places

/-!
# Exchange of the two items

The window between two items is the same in both directions, and so is the way by two items.  To
exchange the between-item and the and-item of a record therefore changes no outcome, even where one
of them cannot be resolved (`outcome_of_exchanged_items`).  The only exceptions are records that
name one end of their window and not the other, for which it matters which end that is.
-/

namespace FlightRule

/-- The fields with the between-item and the and-item exchanged. -/
def GeoReferences.exchanged (fields : GeoReferences) : GeoReferences :=
  { fields with betweenItem := fields.andItem, andItem := fields.betweenItem }

/-- The window has one end that is named, and another end that is not. -/
def GeoReferences.NamesOneEnd (fields : GeoReferences) : Prop :=
  fields.use = .betweenAnd ∧ (fields.betweenItem = 0 ↔ fields.andItem ≠ 0)

instance (fields : GeoReferences) : Decidable fields.NamesOneEnd :=
  inferInstanceAs (Decidable (_ ∧ _))

theorem GeoReferences.named_iff_of_not_namesOneEnd
    {fields : GeoReferences}
    (use : fields.use = .betweenAnd)
    (notOneEnd : ¬fields.NamesOneEnd) :
    fields.betweenItem ≠ 0 ↔ fields.andItem ≠ 0 := by
  have ends : ¬(fields.betweenItem = 0 ↔ fields.andItem ≠ 0) := fun ends => notOneEnd ⟨use, ends⟩
  tauto

/-- The record with the between-item and the and-item exchanged. -/
def RuleRecord.withItemsExchanged (record : RuleRecord) : RuleRecord :=
  { record with geo := record.geo.exchanged }

/-- The form with its two points, or the points that it goes through, in the opposite order. -/
def ScopeForm.exchanged : ScopeForm → ScopeForm
  | between first second => between second first
  | through points => through points.reverse
  | whole => whole
  | within zone => within zone
  | startingAt point => startingAt point
  | endingAt point => endingAt point

namespace GeoScope

/-- The scope with the points of its form in the opposite order. -/
def exchanged (scope : GeoScope) : GeoScope :=
  { scope with form := scope.form.exchanged }

/-! ## The window -/

theorem touched_reverse (hidden : HiddenStops) (points : List GeoPoint) (segments : List Segment) :
    touched hidden points.reverse segments = touched hidden points segments := by
  simp only [touched, touchedConnections, touchedHiddenStops, List.any_reverse]

/-- A window between two points does not depend on their order. -/
theorem formWindow_exchanged
    (hidden : HiddenStops)
    (segments : List Segment)
    (form : ScopeForm) :
    formWindow hidden segments form.exchanged = formWindow hidden segments form := by
  cases form with
  | between first second => simp only [ScopeForm.exchanged, formWindow, Bool.or_comm]
  | through points => simp only [ScopeForm.exchanged, formWindow, touched_reverse]
  | whole => rfl
  | within zone => rfl
  | startingAt point => rfl
  | endingAt point => rfl

/-- The exchanged scope has the same window. -/
@[simp] theorem window_exchanged (scope : GeoScope) (segments : List Segment) :
    scope.exchanged.window segments = scope.window segments := by
  unfold window exchanged
  rw [formWindow_exchanged]

@[simp] theorem forbidsPassage_exchanged (scope : GeoScope) :
    scope.exchanged.forbidsPassage = scope.forbidsPassage := by
  unfold forbidsPassage exchanged
  cases scope.form <;> rfl

/-! ## The resolution -/

variable {fields : GeoReferences} {first second via : Option GeoPoint}

/-- The form between two points, or none, is exchanged with them; equal items have one point. -/
theorem betweenForm_exchanged
    {same : Bool}
    (bothOrNone : first.isSome = second.isSome)
    (agree : same → first = second) :
    betweenForm same second first = (betweenForm same first second).exchanged := by
  cases same with
  | true =>
      obtain rfl := agree rfl
      cases first <;> rfl
  | false => cases first <;> cases second <;> cases bothOrNone <;> rfl

/-- From the exchanged points of the exchanged items the exchanged scope is arranged. -/
theorem arranged_exchanged
    (notOneEnd : ¬fields.NamesOneEnd)
    (named : fields.Named first second via) :
    arranged fields.exchanged second first via = (arranged fields first second via).exchanged := by
  unfold arranged GeoReferences.exchanged
  cases use : fields.use with
  | blank => rfl
  | betweenAnd =>
      have used : fields.use ≠ .blank := by simp [use]
      obtain ⟨first_iff, second_iff⟩ := named.iff_of_used used
      have bothOrNone : first.isSome = second.isSome := by
        rw [Bool.eq_iff_iff, first_iff, second_iff]
        exact GeoReferences.named_iff_of_not_namesOneEnd use notOneEnd
      have agree := named.agree
      rw [GeoReferences.firstItem, if_neg used, GeoReferences.secondItem, if_neg used] at agree
      have same_comm : (fields.andItem == fields.betweenItem) =
          (fields.betweenItem == fields.andItem) := BEq.comm
      unfold exchanged
      simp only [same_comm, betweenForm_exchanged bothOrNone agree]
  | via => cases first <;> cases second <;> cases via <;> rfl

/--
The exchanged items stand for the exchanged scope, or both times for none.  The two resolutions may
fail with different issues, because they look up in different orders.
-/
theorem toOption_resolve_exchanged
    (context : Context)
    (vendor : String)
    (notOneEnd : ¬fields.NamesOneEnd) :
    (resolve context vendor fields.exchanged).toOption =
      (resolve context vendor fields).toOption.map exchanged := by
  have first_eq : fields.exchanged.firstItem = fields.secondItem := rfl
  have second_eq : fields.exchanged.secondItem = fields.firstItem := rfl
  have via_eq : fields.exchanged.viaItem = fields.viaItem := rfl
  rw [resolve_eq, resolve_eq, first_eq, second_eq, via_eq]
  cases firstTried : GeoPoint.resolve? context vendor fields.firstItem with
  | error issue => cases GeoPoint.resolve? context vendor fields.secondItem <;> rfl
  | ok first =>
      cases secondTried : GeoPoint.resolve? context vendor fields.secondItem with
      | error issue => rfl
      | ok second =>
          cases viaTried : GeoPoint.resolve? context vendor fields.viaItem with
          | error issue => rfl
          | ok via =>
              have named := named_of_resolve? firstTried secondTried viaTried
              exact congrArg some (arranged_exchanged notOneEnd named)

end GeoScope

/-! ## Compiled rules -/

/-- The reach with its scope exchanged. -/
def Reach.exchanged : Reach → Reach
  | nowhere => nowhere
  | within scope => within scope.exchanged

@[simp] theorem Reach.window_exchanged (reach : Reach) (segments : List Segment) :
    reach.exchanged.window segments = reach.window segments := by
  cases reach with
  | nowhere => rfl
  | within scope => exact scope.window_exchanged segments

@[simp] theorem Reach.forbidsPassage_exchanged (reach : Reach) :
    reach.exchanged.forbidsPassage = reach.forbidsPassage := by
  cases reach with
  | nowhere => rfl
  | within scope => exact scope.forbidsPassage_exchanged

/-- Rules that differ in nothing but an exchange in their scope have the same outcomes. -/
theorem CompiledRule.sameOutcomes_of_exchanged
    {rule other : CompiledRule}
    (context : Context)
    (use_eq : rule.use = other.use)
    (application_eq : rule.application = other.application)
    (direction_eq : rule.direction = other.direction)
    (demand_eq : rule.demand = other.demand)
    (reach_eq : rule.reach = other.reach.exchanged) :
    rule.SameOutcomes context other context := by
  apply sameOutcomes_of_look use_eq
  · rw [indicator, indicator, direction_eq]
  · rw [demand_eq]
    refine .self fun requirement _ segments opposite => ?_
    apply outcome_look_congr
    · rw [turnsRound, turnsRound, application_eq, reach_eq, Reach.forbidsPassage_exchanged]
    · rw [reach_eq, Reach.window_exchanged]
    · exact fun _ _ => rfl
    · exact fun _ _ _ => rfl

namespace RuleRecord

variable (record : RuleRecord) (context : Context) (vendor : String)

theorem demand_withItemsExchanged :
    record.withItemsExchanged.demand context vendor = record.demand context vendor :=
  rfl

/-- A record applies where its items stand for a scope. -/
theorem reach_eq_elim :
    (record.reach context vendor).1 =
      (GeoScope.resolve context vendor record.geo).toOption.elim .nowhere .within := by
  unfold reach
  cases GeoScope.resolve context vendor record.geo <;> rfl

variable {record}

/-- With the items exchanged, a rule applies in the exchanged scope. -/
theorem reach_withItemsExchanged (notOneEnd : ¬record.geo.NamesOneEnd) :
    (record.withItemsExchanged.reach context vendor).1 =
      (record.reach context vendor).1.exchanged := by
  have scopes := GeoScope.toOption_resolve_exchanged context vendor notOneEnd
  rw [reach_eq_elim, reach_eq_elim, withItemsExchanged, scopes]
  cases (GeoScope.resolve context vendor record.geo).toOption <;> rfl

end RuleRecord

/--
Exchanging the between-item and the and-item of a record has no effect on its outcomes, on single
fares as well as in pricing units, whether the items can be resolved or not.  Only where a record
names one end of its window and not the other, it matters which end that is.
-/
theorem outcome_of_exchanged_items
    (record : RuleRecord)
    (use : RuleUse)
    (vendor : String)
    (compileContext context : Context)
    (notOneEnd : ¬record.geo.NamesOneEnd) :
    let rule := record.compile use vendor compileContext
    let exchanged := record.withItemsExchanged.compile use vendor compileContext
    (∀ itinerary, exchanged.outcome context itinerary = rule.outcome context itinerary) ∧
    ∀ unit usage,
      exchanged.outcomeInUnit context unit usage = rule.outcomeInUnit context unit usage := by
  intro rule exchanged
  have same : exchanged.SameOutcomes context rule context :=
    CompiledRule.sameOutcomes_of_exchanged context (Eq.refl use) (Eq.refl record.application)
      (Eq.refl record.direction)
      (congrArg Prod.fst (record.demand_withItemsExchanged compileContext vendor))
      (RuleRecord.reach_withItemsExchanged compileContext vendor notOneEnd)
  exact ⟨same.outcome_eq, same.outcomeInUnit_eq⟩

/-- A record from the second place to the first has the window from the first to the second. -/
theorem outcome_of_way_home :
    let rule := carrierBetween.withItemsExchanged.compile .primary "ATP" coastToCoast
    let itinerary := acrossWith .surface .surface
    ¬carrierBetween.geo.NamesOneEnd ∧
      rule.reach.window itinerary.segments = some ⟨1, 3⟩ ∧
      rule.outcome coastToCoast itinerary = .pass := by
  intro rule itinerary
  have notOneEnd : ¬carrierBetween.geo.NamesOneEnd := by decide
  refine ⟨notOneEnd, by decide, ?_⟩
  have outcome_eq :=
    (outcome_of_exchanged_items carrierBetween .primary "ATP" coastToCoast coastToCoast notOneEnd).1
  rw [outcome_eq]
  decide

/-- With one end, the window is another one and so is the outcome. -/
example :
    let leaving : RuleRecord :=
      { carrierBetween with geo := { use := .betweenAnd, betweenItem := 1 } }
    let outcomeOf (record : RuleRecord) :=
      (record.compile .primary "ATP" coastToCoast).outcome coastToCoast
        (acrossWith (.air "AA" 7) .surface)
    outcomeOf leaving = .pass ∧ outcomeOf leaving.withItemsExchanged = .fail := by
  decide

end FlightRule
