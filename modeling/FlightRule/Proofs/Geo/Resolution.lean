import FlightRule.Proofs.Geo.Lookup

/-!
# Resolution item by item

The items that geographic fields name are looked up one by one (`GeoReferences.consulted`), and the
scope is arranged from their points (`GeoScope.resolve_eq`), so that what is said of resolved scopes
is said of `GeoScope.arranged`.  A scope holds a point for each item that was looked up, in order;
only a zone is looked up twice (`GeoScope.map_consultedPoints_resolve`).  There is a scope exactly
when all these items can be resolved, and otherwise the first that cannot be is the issue
(`resolve_of_consulted`).
-/

namespace FlightRule

variable {context : Context} {vendor : String}

/-! ## What is looked up -/

namespace GeoReferences

variable (fields : GeoReferences)

/-- The numbers that are looked up, in order; zero names nothing. -/
def consulted : List UInt32 :=
  (match fields.use with
    | .blank => [fields.viaItem]
    | .betweenAnd => [fields.betweenItem, fields.andItem, fields.viaItem]
    | .via =>
      if fields.betweenItem ≠ 0 ∨ fields.andItem ≠ 0 then
        [fields.betweenItem, fields.andItem, fields.viaItem]
      else [fields.viaItem]).filter (· ≠ 0)

/-- The number that is looked up first, if the places have a use. -/
def firstItem : UInt32 :=
  if fields.use = .blank then 0 else fields.betweenItem

/-- The number that is looked up second, if the places have a use. -/
def secondItem : UInt32 :=
  if fields.use = .blank then 0 else fields.andItem

/-- The items consulted are those of the two ends and the via-item, as far as they are named. -/
theorem consulted_eq :
    fields.consulted = [fields.firstItem, fields.secondItem, fields.viaItem].filter (· ≠ 0) := by
  unfold consulted firstItem secondItem
  cases fields.use with
  | blank => simp
  | betweenAnd => rfl
  | via =>
      by_cases between : fields.betweenItem = 0
      · by_cases and : fields.andItem = 0
        · simp [between, and]
        · simp [and]
      · simp [between]

theorem consulted_subset :
    fields.consulted ⊆ [fields.betweenItem, fields.andItem, fields.viaItem] := by
  intro item consulted
  unfold GeoReferences.consulted at consulted
  have listed := (List.mem_filter.1 consulted).1
  split at listed
  · simp_all
  · exact listed
  · split at listed <;> simp_all

/-- The way goes by the via-item, because no other item is named. -/
def GoesByViaItem : Prop :=
  fields.use = .via ∧ fields.betweenItem = 0 ∧ fields.andItem = 0

/-- The window is a zone, because one item is named twice. -/
def NamesZone : Prop :=
  fields.use = .betweenAnd ∧ fields.betweenItem ≠ 0 ∧ fields.betweenItem = fields.andItem

/-- There are points for the items that are named, and equal items have one point. -/
structure Named (first second via : Option GeoPoint) : Prop where
  first_iff : first.isSome ↔ fields.firstItem ≠ 0
  second_iff : second.isSome ↔ fields.secondItem ≠ 0
  via_iff : via.isSome ↔ fields.viaItem ≠ 0
  agree : (fields.firstItem == fields.secondItem) → first = second

theorem Named.iff_of_used
    {fields : GeoReferences}
    {first second via : Option GeoPoint}
    (named : fields.Named first second via)
    (used : fields.use ≠ .blank) :
    (first.isSome ↔ fields.betweenItem ≠ 0) ∧ (second.isSome ↔ fields.andItem ≠ 0) := by
  have first_iff := named.first_iff
  have second_iff := named.second_iff
  rw [firstItem, if_neg used] at first_iff
  rw [secondItem, if_neg used] at second_iff
  exact ⟨first_iff, second_iff⟩

end GeoReferences

/-- The points that a form names. -/
def ScopeForm.points : ScopeForm → List GeoPoint
  | whole => []
  | between first second => [first, second]
  | within zone => [zone]
  | startingAt point => [point]
  | endingAt point => [point]
  | through points => points

/-- The points that a scope names. -/
def GeoScope.points (scope : GeoScope) : List GeoPoint :=
  scope.form.points ++ scope.via.toList

/-- The points that are looked up for a scope, in order; that of a zone is looked up twice. -/
def GeoScope.consultedPoints (scope : GeoScope) : List GeoPoint :=
  match scope.form with
  | .within zone => zone :: scope.points
  | _ => scope.points

/-! ## The scope of some points -/

namespace GeoScope

variable {fields : GeoReferences} {first second via : Option GeoPoint}

/-- The scope that is arranged from the points of the items. -/
def arranged (fields : GeoReferences) (first second via : Option GeoPoint) : GeoScope :=
  let scope (form : ScopeForm) (via : Option GeoPoint) : GeoScope :=
    { form, via, hidden := fields.hidden, polarity := fields.viaPolarity }
  match fields.use with
  | .blank => scope .whole via
  | .betweenAnd => scope (betweenForm (fields.betweenItem == fields.andItem) first second) via
  | .via =>
    match first.toList ++ second.toList with
    | [] => scope (via.elim .whole fun via => .through [via]) none
    | points => scope (.through points) via

/-- The items are looked up in order, and then the scope is arranged from their points. -/
theorem resolve_eq (context : Context) (vendor : String) (fields : GeoReferences) :
    resolve context vendor fields = do
      let first ← GeoPoint.resolve? context vendor fields.firstItem
      let second ← GeoPoint.resolve? context vendor fields.secondItem
      let via ← GeoPoint.resolve? context vendor fields.viaItem
      return arranged fields first second via := by
  unfold resolve arranged GeoReferences.firstItem GeoReferences.secondItem
  cases fields.use with
  | blank => rfl
  | betweenAnd => rfl
  | via =>
      simp only [reduceCtorEq, if_false]
      refine bind_congr fun first => bind_congr fun second => ?_
      cases first <;> cases second <;> rfl

/-- Items that are resolved are resolved to a point exactly if they are named. -/
theorem named_of_resolve?
    (firstResolved : GeoPoint.resolve? context vendor fields.firstItem = .ok first)
    (secondResolved : GeoPoint.resolve? context vendor fields.secondItem = .ok second)
    (viaResolved : GeoPoint.resolve? context vendor fields.viaItem = .ok via) :
    fields.Named first second via where
  first_iff := GeoPoint.isSome_of_resolve? firstResolved
  second_iff := GeoPoint.isSome_of_resolve? secondResolved
  via_iff := GeoPoint.isSome_of_resolve? viaResolved
  agree := GeoPoint.eq_of_resolve? firstResolved secondResolved

/-- The points of the scope are those that it is arranged from. -/
theorem consultedPoints_arranged (named : fields.Named first second via) :
    (arranged fields first second via).consultedPoints =
      first.toList ++ second.toList ++ via.toList := by
  obtain ⟨first_iff, second_iff, _, agree⟩ := named
  unfold arranged GeoReferences.firstItem GeoReferences.secondItem at *
  cases use : fields.use with
  | blank =>
      obtain rfl : first = none := by simpa [use] using first_iff
      obtain rfl : second = none := by simpa [use] using second_iff
      rfl
  | betweenAnd =>
      simp only [use, reduceCtorEq, if_false] at agree
      cases same : fields.betweenItem == fields.andItem with
      | false => cases first <;> cases second <;> rfl
      | true =>
          obtain rfl := agree same
          cases first <;> rfl
  | via => cases first <;> cases second <;> cases via <;> rfl

/-- A scope has the points of the items that were looked up, one by one. -/
theorem map_consultedPoints_resolve
    (context : Context)
    (vendor : String)
    (fields : GeoReferences) :
    (resolve context vendor fields).map consultedPoints =
      fields.consulted.mapM (GeoPoint.resolve context vendor) := by
  rw [resolve_eq, fields.consulted_eq]
  simp only [GeoPoint.mapM_resolve_filter_cons, List.filter_nil, List.mapM_nil, bind_assoc,
    pure_bind, List.append_nil]
  cases firstTried : GeoPoint.resolve? context vendor fields.firstItem with
  | error issue => rfl
  | ok first =>
      cases secondTried : GeoPoint.resolve? context vendor fields.secondItem with
      | error issue => rfl
      | ok second =>
          cases viaTried : GeoPoint.resolve? context vendor fields.viaItem with
          | error issue => rfl
          | ok via =>
              have points_eq :=
                consultedPoints_arranged (named_of_resolve? firstTried secondTried viaTried)
              rw [List.append_assoc] at points_eq
              exact congrArg Except.ok points_eq

end GeoScope

/-! ## The form of a scope -/

/-- The form is the one for the items that the fields name. -/
def ScopeForm.Suits (fields : GeoReferences) : ScopeForm → Prop
  | .whole =>
    fields.use = .blank ∨
      fields.betweenItem = 0 ∧ fields.andItem = 0 ∧ (fields.use = .via → fields.viaItem = 0)
  | .between _ _ =>
    fields.use = .betweenAnd ∧ fields.betweenItem ≠ 0 ∧ fields.andItem ≠ 0 ∧
      fields.betweenItem ≠ fields.andItem
  | .within _ => fields.NamesZone
  | .startingAt _ => fields.use = .betweenAnd ∧ fields.betweenItem ≠ 0 ∧ fields.andItem = 0
  | .endingAt _ => fields.use = .betweenAnd ∧ fields.betweenItem = 0 ∧ fields.andItem ≠ 0
  | .through points => fields.use = .via ∧ points ≠ []

/-- The scope has the form and the flags that the fields ask for. -/
structure GeoScope.Suits (scope : GeoScope) (fields : GeoReferences) : Prop where
  form_suits : scope.form.Suits fields
  via_isSome_iff : scope.via.isSome ↔ fields.viaItem ≠ 0 ∧ ¬fields.GoesByViaItem
  hidden_eq : scope.hidden = fields.hidden
  polarity_eq : scope.polarity = fields.viaPolarity

namespace ScopeForm

variable {fields : GeoReferences} {form : ScopeForm}

theorem exists_within (suits : form.Suits fields) (namesZone : fields.NamesZone) :
    ∃ zone, form = .within zone := by
  obtain ⟨use, named, same⟩ := namesZone
  cases form with
  | within zone => exact ⟨zone, rfl⟩
  | whole | between | startingAt | endingAt | through => simp_all [Suits]

theorem exists_through
    (suits : form.Suits fields)
    (goesByViaItem : fields.GoesByViaItem)
    (named : fields.viaItem ≠ 0) :
    ∃ points, form = .through points := by
  obtain ⟨use, noBetween, noAnd⟩ := goesByViaItem
  cases form with
  | through points => exact ⟨points, rfl⟩
  | whole | between | within | startingAt | endingAt => simp_all [Suits, GeoReferences.NamesZone]

end ScopeForm

namespace GeoScope

variable
  {fields : GeoReferences}
  {first second via : Option GeoPoint}
  {scope : GeoScope}
  {issue : Issue}

theorem suits_betweenForm
    (use : fields.use = .betweenAnd)
    (first_iff : first.isSome ↔ fields.betweenItem ≠ 0)
    (second_iff : second.isSome ↔ fields.andItem ≠ 0) :
    (betweenForm (fields.betweenItem == fields.andItem) first second).Suits fields := by
  cases first with
  | none =>
      have noBetween : fields.betweenItem = 0 := by simpa using first_iff
      cases second with
      | none => exact .inr ⟨noBetween, by simpa using second_iff, by simp [use]⟩
      | some second => exact ⟨use, noBetween, second_iff.1 rfl⟩
  | some first =>
      have between := first_iff.1 rfl
      cases second with
      | none => exact ⟨use, between, by simpa using second_iff⟩
      | some second =>
          have and := second_iff.1 rfl
          by_cases same : fields.betweenItem = fields.andItem
          · rw [betweenForm, if_pos (beq_iff_eq.2 same)]
            exact ⟨use, between, same⟩
          · rw [betweenForm, if_neg (mt beq_iff_eq.1 same)]
            exact ⟨use, between, and, same⟩

theorem suits_arranged (named : fields.Named first second via) :
    (arranged fields first second via).Suits fields := by
  have via_iff := named.via_iff
  unfold arranged
  cases use : fields.use with
  | blank =>
      have otherUse : ¬fields.GoesByViaItem := by simp [GeoReferences.GoesByViaItem, use]
      exact ⟨.inl use, by simpa [otherUse] using via_iff, rfl, rfl⟩
  | betweenAnd =>
      have otherUse : ¬fields.GoesByViaItem := by simp [GeoReferences.GoesByViaItem, use]
      obtain ⟨first_iff, second_iff⟩ := named.iff_of_used (by simp [use])
      have suits := suits_betweenForm use first_iff second_iff
      exact ⟨suits, by simpa [otherUse] using via_iff, rfl, rfl⟩
  | via =>
      obtain ⟨first_iff, second_iff⟩ := named.iff_of_used (by simp [use])
      cases first with
      | some first =>
          have otherNamed : ¬fields.GoesByViaItem := fun goes => first_iff.1 rfl goes.2.1
          exact ⟨⟨use, List.cons_ne_nil _ _⟩, by simpa [otherNamed] using via_iff, rfl, rfl⟩
      | none =>
          cases second with
          | some second =>
              have otherNamed : ¬fields.GoesByViaItem := fun goes => second_iff.1 rfl goes.2.2
              exact ⟨⟨use, List.cons_ne_nil _ _⟩, by simpa [otherNamed] using via_iff, rfl, rfl⟩
          | none =>
              have noBetween : fields.betweenItem = 0 := by simpa using first_iff
              have noAnd : fields.andItem = 0 := by simpa using second_iff
              have goes : fields.GoesByViaItem := ⟨use, noBetween, noAnd⟩
              refine ⟨?_, by simp [goes], rfl, rfl⟩
              cases via with
              | none => exact .inr ⟨noBetween, noAnd, fun _ => by simpa using via_iff⟩
              | some via => exact ⟨use, List.cons_ne_nil _ _⟩

/-- A scope that fields are resolved to is arranged from the items that they name. -/
theorem exists_named_of_resolve (resolved : resolve context vendor fields = .ok scope) :
    ∃ first second via, fields.Named first second via ∧
      scope = arranged fields first second via := by
  rw [resolve_eq] at resolved
  obtain ⟨first, firstResolved, resolved⟩ := ok_of_bind resolved
  obtain ⟨second, secondResolved, resolved⟩ := ok_of_bind resolved
  obtain ⟨via, viaResolved, done⟩ := ok_of_bind resolved
  cases done
  exact ⟨first, second, via, named_of_resolve? firstResolved secondResolved viaResolved, rfl⟩

/-- The scope that fields are resolved to suits them. -/
theorem suits_of_resolve (resolved : resolve context vendor fields = .ok scope) :
    scope.Suits fields := by
  obtain ⟨first, second, via, named, rfl⟩ := exists_named_of_resolve resolved
  exact suits_arranged named

/-! ## Scopes and their items -/

/-- The points of a resolved scope are described by the items consulted, in order. -/
theorem describes_of_resolve (resolved : resolve context vendor fields = .ok scope) :
    List.Forall₂ (context.geography.Describes vendor) fields.consulted scope.consultedPoints := by
  have points_eq := map_consultedPoints_resolve context vendor fields
  rw [resolved] at points_eq
  exact (mapM_eq_ok_iff.1 points_eq.symm).imp fun _ _ => GeoPoint.resolve_eq_ok_iff.1

/-- Fields are resolved exactly when every item that is consulted can be. -/
theorem exists_resolve_eq_ok_iff :
    (∃ scope, resolve context vendor fields = .ok scope) ↔
      ∀ item ∈ fields.consulted, context.geography.Resolves vendor item := by
  simp only [← GeoPoint.exists_resolve_eq_ok_iff, ← exists_mapM_eq_ok_iff,
    ← map_consultedPoints_resolve]
  cases resolve context vendor fields with
  | error issue => simp [Except.map]
  | ok scope => exact iff_of_true ⟨scope, rfl⟩ ⟨_, rfl⟩

/-- Fields that are not resolved have the issue of the first item consulted that cannot be. -/
theorem resolve_eq_error_iff :
    resolve context vendor fields = .error issue ↔
      ∃ before item after, fields.consulted = before ++ item :: after ∧
        (∀ earlier ∈ before, context.geography.Resolves vendor earlier) ∧
        context.geography.Lacks vendor item issue := by
  simp only [← GeoPoint.exists_resolve_eq_ok_iff, ← GeoPoint.resolve_eq_error_iff,
    ← mapM_eq_error_iff, ← map_consultedPoints_resolve]
  cases resolve context vendor fields <;> simp [Except.map]

/-- The points of a scope are those of items that were looked up. -/
theorem exists_describes_of_mem_points
    {point : GeoPoint}
    (resolved : resolve context vendor fields = .ok scope)
    (named : point ∈ scope.points) :
    ∃ item ∈ fields.consulted, context.geography.Describes vendor item point := by
  have consulted : point ∈ scope.consultedPoints := by
    unfold consultedPoints
    split
    · exact List.mem_cons_of_mem _ named
    · exact named
  exact exists_of_mem_right (describes_of_resolve resolved) consulted

/-- Where there is no scope, an item that was looked up lacks something. -/
theorem exists_lacks_of_resolve (failed : resolve context vendor fields = .error issue) :
    ∃ item ∈ fields.consulted, context.geography.Lacks vendor item issue := by
  obtain ⟨before, item, after, split, _, lacks⟩ := resolve_eq_error_iff.1 failed
  exact ⟨item, by simp [split], lacks⟩

end GeoScope

/--
Geographic fields stand for a scope exactly when all items that are looked up for them can be
resolved; otherwise the first of these items that cannot be is the issue, or its trip structure.  A
scope has one point for each of these items, with its matcher and its boundary.  Only the two equal
items of a zone have one point together, and a via-item that alone names the way is no point that
has to be passed besides.
-/
theorem resolve_of_consulted (context : Context) (vendor : String) (fields : GeoReferences) :
    ((∃ scope, GeoScope.resolve context vendor fields = .ok scope) ↔
      ∀ item ∈ fields.consulted, context.geography.Resolves vendor item) ∧
    (∀ issue, GeoScope.resolve context vendor fields = .error issue ↔
      ∃ before item after, fields.consulted = before ++ item :: after ∧
        (∀ earlier ∈ before, context.geography.Resolves vendor earlier) ∧
        context.geography.Lacks vendor item issue) ∧
    ∀ scope, GeoScope.resolve context vendor fields = .ok scope →
      scope.Suits fields ∧
      List.Forall₂ (context.geography.Describes vendor) fields.consulted scope.consultedPoints ∧
      (fields.NamesZone →
        ∃ zone, scope.form = .within zone ∧
          context.geography.Describes vendor fields.betweenItem zone) ∧
      (fields.GoesByViaItem → fields.viaItem ≠ 0 →
        ∃ point, scope.form = .through [point] ∧ scope.via = none ∧
          context.geography.Describes vendor fields.viaItem point) := by
  refine ⟨GeoScope.exists_resolve_eq_ok_iff, fun issue => GeoScope.resolve_eq_error_iff, ?_⟩
  intro scope resolved
  have suits := GeoScope.suits_of_resolve resolved
  have described := GeoScope.describes_of_resolve resolved
  refine ⟨suits, described, ?_, ?_⟩
  · intro namesZone
    obtain ⟨zone, form⟩ := ScopeForm.exists_within suits.form_suits namesZone
    obtain ⟨use, named, _⟩ := namesZone
    have consulted_eq : fields.consulted =
        fields.betweenItem :: [fields.andItem, fields.viaItem].filter (· ≠ 0) := by
      simp [GeoReferences.consulted, use, named]
    rw [consulted_eq, GeoScope.consultedPoints, form] at described
    exact ⟨zone, form, (List.forall₂_cons.1 described).1⟩
  · intro goesByViaItem named
    obtain ⟨points, form⟩ := ScopeForm.exists_through suits.form_suits goesByViaItem named
    have noVia : scope.via = none := by
      have via_iff := suits.via_isSome_iff
      simpa [goesByViaItem] using via_iff
    obtain ⟨use, noBetween, noAnd⟩ := goesByViaItem
    have consulted_eq : fields.consulted = [fields.viaItem] := by
      simp [GeoReferences.consulted, use, noBetween, noAnd, named]
    have points_eq : scope.consultedPoints = points := by
      simp [GeoScope.consultedPoints, GeoScope.points, ScopeForm.points, form, noVia]
    rw [consulted_eq, points_eq] at described
    obtain ⟨point, rest, describes, noRest, rfl⟩ := List.forall₂_cons_left_iff.1 described
    obtain rfl := List.forall₂_nil_left_iff.1 noRest
    exact ⟨point, form, noVia, describes⟩

/-- A transaction in which one item is bounded by a trip structure, and another one is missing. -/
def inlandFrankfurt : Context where
  geography := {
    item? := fun vendor itemNo =>
      if itemNo = 2 then none else some ⟨vendor, itemNo, .airport "FRA", 7⟩
    tripStructure? := fun number => if number = 7 then some { origin := false } else none }

/-- A via-item alone is gone by; where items are missing, the first in order is the issue. -/
theorem resolve_of_alone_and_missing :
    let alone : GeoReferences := { use := .via, viaItem := 1 }
    let missing : GeoReferences :=
      { use := .betweenAnd, betweenItem := 1, andItem := 2, viaItem := 2 }
    let frankfurt : GeoPoint := ⟨.airport "FRA", { origin := false }⟩
    let scope : GeoScope := { form := .through [frankfurt] }
    GeoScope.resolve inlandFrankfurt "ATP" alone = .ok scope ∧
      scope.Suits alone ∧
      List.Forall₂ (inlandFrankfurt.geography.Describes "ATP") [1] [frankfurt] ∧
      inlandFrankfurt.geography.Resolves "ATP" 1 ∧
      GeoScope.resolve inlandFrankfurt "ATP" missing = .error (.unresolvedGeoItem "ATP" 2) := by
  intro alone missing frankfurt scope
  have resolved : GeoScope.resolve inlandFrankfurt "ATP" alone = .ok scope := rfl
  obtain ⟨exists_iff, _, ofScope⟩ := resolve_of_consulted inlandFrankfurt "ATP" alone
  obtain ⟨suits, described, _⟩ := ofScope scope resolved
  have firstResolves := exists_iff.1 ⟨scope, resolved⟩ 1 (by decide)
  obtain ⟨_, error_iff, _⟩ := resolve_of_consulted inlandFrankfurt "ATP" missing
  refine ⟨resolved, suits, described, firstResolves, (error_iff _).2 ?_⟩
  exact ⟨[1], 2, [2], by decide, by simpa using firstResolves, .item rfl⟩

end FlightRule
