import Mathlib.Data.List.Forall2
import FlightRule.Geo.Resolve

/-!
# Lookup of items

A geographic item can be resolved if it exists and the trip structure that bounds it does too;
otherwise the issue says what is missing (`GeoPoint.resolve_eq_ok_iff`,
`GeoPoint.resolve_eq_error_iff`).  Items that are looked up one after the other all succeed, or the
first that does not gives the issue (`mapM_eq_ok_iff`, `mapM_eq_error_iff`).
-/

namespace FlightRule

/-! ## A list of attempts -/

section Attempts

variable {ε α β : Type} {attempt : α → Except ε β} {items : List α}

theorem exists_of_mem_right
    {related : α → β → Prop}
    {results : List β}
    {result : β}
    (allRelated : List.Forall₂ related items results)
    (member : result ∈ results) :
    ∃ item ∈ items, related item result := by
  induction allRelated with
  | nil => cases member
  | cons here later inductionHypothesis =>
      rcases List.mem_cons.1 member with rfl | inRest
      · exact ⟨_, List.mem_cons_self, here⟩
      · obtain ⟨item, itemMember, related⟩ := inductionHypothesis inRest
        exact ⟨item, List.mem_cons_of_mem _ itemMember, related⟩

theorem ok_of_bind
    {attempt : Except ε α}
    {next : α → Except ε β}
    {result : β}
    (succeeded : attempt >>= next = .ok result) :
    ∃ value, attempt = .ok value ∧ next value = .ok result := by
  cases attempt with
  | error error => cases succeeded
  | ok value => exact ⟨value, rfl, succeeded⟩

/-- A list of attempts succeeds if each of them does. -/
theorem mapM_eq_ok_iff {results : List β} :
    items.mapM attempt = .ok results ↔
      List.Forall₂ (fun item result => attempt item = .ok result) items results := by
  induction items generalizing results with
  | nil => cases results <;> simp [pure, Except.pure]
  | cons item items inductionHypothesis =>
      rw [List.mapM_cons, List.forall₂_cons_left_iff]
      cases tried : attempt item with
      | error error => simp [bind, Except.bind]
      | ok result =>
          simp only [← inductionHypothesis, Except.ok.injEq]
          cases items.mapM attempt with
          | error error => simp [bind, Except.bind]
          | ok rest => simp [bind, Except.bind, pure, Except.pure, eq_comm]

theorem exists_mapM_eq_ok_iff :
    (∃ results, items.mapM attempt = .ok results) ↔
      ∀ item ∈ items, ∃ result, attempt item = .ok result := by
  simp only [mapM_eq_ok_iff]
  induction items with
  | nil => simp
  | cons item items inductionHypothesis =>
      rw [List.forall_mem_cons, ← inductionHypothesis]
      constructor
      · rintro ⟨_, done | ⟨tried, triedRest⟩⟩
        exact ⟨⟨_, tried⟩, _, triedRest⟩
      · rintro ⟨⟨result, tried⟩, results, triedRest⟩
        exact ⟨result :: results, .cons tried triedRest⟩

/-- A list of attempts fails with the error of the first one that fails. -/
theorem mapM_eq_error_iff {error : ε} :
    items.mapM attempt = .error error ↔
      ∃ before item after, items = before ++ item :: after ∧
        (∀ earlier ∈ before, ∃ result, attempt earlier = .ok result) ∧
        attempt item = .error error := by
  constructor
  · intro failed
    induction items with
    | nil => cases failed
    | cons item items inductionHypothesis =>
        rw [List.mapM_cons] at failed
        cases tried : attempt item with
        | error first =>
            rw [tried] at failed
            cases failed
            exact ⟨[], item, items, rfl, nofun, tried⟩
        | ok result =>
            have later : items.mapM attempt = .error error := by
              rw [tried] at failed
              cases rest : items.mapM attempt <;> rw [rest] at failed <;> cases failed
              rfl
            obtain ⟨before, other, after, rfl, resolved, failed⟩ := inductionHypothesis later
            have allResolved := List.forall_mem_cons.2 ⟨⟨result, tried⟩, resolved⟩
            exact ⟨item :: before, other, after, rfl, allResolved, failed⟩
  · rintro ⟨before, item, after, rfl, resolved, failed⟩
    obtain ⟨results, done⟩ := exists_mapM_eq_ok_iff.2 resolved
    rw [List.mapM_append, done, List.mapM_cons, failed]
    rfl

end Attempts

/-! ## Single items -/

namespace GeoSource

variable (source : GeoSource) (vendor : String) (item : UInt32)

/-- The item of a vendor exists, and so does its trip structure, if it has one. -/
def Resolves : Prop :=
  ∃ found, source.item? vendor item = some found ∧
    (found.tripStructure = 0 ∨ (source.tripStructure? found.tripStructure).isSome)

/-- A point has the matcher of the item and its boundary, which without trip structure is open. -/
def Describes (point : GeoPoint) : Prop :=
  ∃ found, source.item? vendor item = some found ∧ point.matcher = found.matcher ∧
    if found.tripStructure = 0 then point.boundary = {}
    else source.tripStructure? found.tripStructure = some point.boundary

/-- What is missing where the item cannot be resolved. -/
inductive Lacks : Issue → Prop where
  | item (missing : source.item? vendor item = none) : Lacks (.unresolvedGeoItem vendor item)
  | tripStructure
      {found : GeoItem}
      (present : source.item? vendor item = some found)
      (bounded : found.tripStructure ≠ 0)
      (missing : source.tripStructure? found.tripStructure = none) :
      Lacks (.unresolvedTripStructure found.tripStructure)

end GeoSource

variable {context : Context} {vendor : String} {item : UInt32}

namespace GeoPoint

/-- An item is resolved to the point that the geographic data describe. -/
theorem resolve_eq_ok_iff {point : GeoPoint} :
    resolve context vendor item = .ok point ↔ context.geography.Describes vendor item point := by
  constructor
  · intro resolved
    unfold resolve at resolved
    split at resolved
    · cases resolved
    next found present =>
      split at resolved
      next unbounded =>
        cases resolved
        exact ⟨found, present, rfl, by rw [if_pos unbounded]⟩
      next bounded =>
        split at resolved
        · cases resolved
        next boundary known =>
          cases resolved
          exact ⟨found, present, rfl, by rw [if_neg bounded, known]⟩
  · rintro ⟨found, present, matcher_eq, boundary_eq⟩
    obtain ⟨matcher, boundary⟩ := point
    obtain rfl : matcher = found.matcher := matcher_eq
    rw [resolve, present]
    split at boundary_eq
    next unbounded =>
      obtain rfl : boundary = {} := boundary_eq
      simp [unbounded]
    next bounded => simp [bounded, boundary_eq]

/-- An item that is not resolved lacks what the issue says. -/
theorem resolve_eq_error_iff {issue : Issue} :
    resolve context vendor item = .error issue ↔ context.geography.Lacks vendor item issue := by
  constructor
  · intro failed
    unfold resolve at failed
    split at failed
    next missing =>
      cases failed
      exact .item missing
    next found present =>
      split at failed
      · cases failed
      next bounded =>
        split at failed
        next missing =>
          cases failed
          exact .tripStructure present bounded missing
        · cases failed
  · rintro (missing | ⟨present, bounded, missing⟩)
    · rw [resolve, missing]
    · simp [resolve, present, bounded, missing]

/-- An item is resolved exactly when the geographic data have what it needs. -/
theorem exists_resolve_eq_ok_iff :
    (∃ point, resolve context vendor item = .ok point) ↔
      context.geography.Resolves vendor item := by
  simp only [resolve_eq_ok_iff]
  constructor
  · rintro ⟨point, found, present, _, boundary_eq⟩
    refine ⟨found, present, ?_⟩
    split at boundary_eq
    next unbounded => exact .inl unbounded
    next bounded => exact .inr (Option.isSome_of_mem boundary_eq)
  · rintro ⟨found, present, unbounded | bounded⟩
    · exact ⟨⟨found.matcher, {}⟩, found, present, rfl, by rw [if_pos unbounded]⟩
    · by_cases unbounded : found.tripStructure = 0
      · exact ⟨⟨found.matcher, {}⟩, found, present, rfl, by rw [if_pos unbounded]⟩
      · obtain ⟨boundary, known⟩ := Option.isSome_iff_exists.1 bounded
        exact ⟨⟨found.matcher, boundary⟩, found, present, rfl, by rw [if_neg unbounded, known]⟩

theorem isSome_of_resolve?
    {point? : Option GeoPoint}
    (resolved : resolve? context vendor item = .ok point?) :
    point?.isSome ↔ item ≠ 0 := by
  unfold resolve? at resolved
  split at resolved
  next zero =>
    cases resolved
    simp [zero]
  next named =>
    cases found : resolve context vendor item with
    | error issue =>
        rw [found] at resolved
        cases resolved
    | ok point =>
        rw [found] at resolved
        cases resolved
        simp [named]

/-- Equal items have one point. -/
theorem eq_of_resolve?
    {other : UInt32}
    {first second : Option GeoPoint}
    (firstResolved : resolve? context vendor item = .ok first)
    (secondResolved : resolve? context vendor other = .ok second)
    (same : (item == other) = true) :
    first = second := by
  rw [eq_of_beq same, secondResolved] at firstResolved
  exact (Except.ok.inj firstResolved).symm

/-- Zero names no item, and so it has no point. -/
theorem mapM_resolve_filter_cons (context : Context) (vendor : String) (items : List UInt32) :
    ((item :: items).filter (· ≠ 0)).mapM (resolve context vendor) = do
      let point? ← resolve? context vendor item
      let points ← (items.filter (· ≠ 0)).mapM (resolve context vendor)
      return point?.toList ++ points := by
  by_cases zero : item = 0
  · rw [List.filter_cons_of_neg (by simpa using zero), resolve?, if_pos zero]
    exact (bind_pure _).symm
  · rw [List.filter_cons_of_pos (by simpa using zero), List.mapM_cons, resolve?, if_neg zero]
    cases resolve context vendor item <;> rfl

end GeoPoint

end FlightRule
