import FlightRule.Proofs.Geo.Passage

/-!
# Windows with all positions checked

The functions that find a window read lists by position and subtract numbers of segments, and they
are written so that a wrong position would pass unnoticed.  Here the same computation is done with
every such step checked: a point has to be one of the journey, a position one of the list that is
read, a difference must not be below zero, and a slice has to be inside the list.  No check ever
fails, whatever the scope and the journey (`Checked.window_eq`), although some of them would fail on
a journey without segments, were they made there.
-/

namespace FlightRule

/-- What can go wrong in a computation with positions. -/
inductive Fault where
  /-- A point behind the last one of a journey. -/
  | noSuchPoint (point segmentCount : Nat)
  /-- A position behind the last one of a list. -/
  | noSuchItem (position length : Nat)
  /-- A difference below zero. -/
  | belowZero (minuend subtrahend : Nat)
  /-- A window that stops before it starts, or behind the end of a list. -/
  | noSuchSlice (window : Window) (length : Nat)
deriving DecidableEq, Repr

/-- A computation that ends with the first fault. -/
abbrev Checked : Type → Type := Except Fault

namespace Checked

/-! ## The checks -/

/-- A difference that is not below zero. -/
def subtract (minuend subtrahend : Nat) : Checked Nat :=
  if subtrahend ≤ minuend then .ok (minuend - subtrahend)
  else .error (.belowZero minuend subtrahend)

/-- The item at a position of a list. -/
def item {α : Type} (items : List α) (position : Nat) : Checked α :=
  match items[position]? with
  | some item => .ok item
  | none => .error (.noSuchItem position items.length)

/-- The items of a list at the positions of a window. -/
def slice {α : Type} (window : Window) (items : List α) : Checked (List α) :=
  if window.start ≤ window.stop ∧ window.stop ≤ items.length then .ok (window.slice items)
  else .error (.noSuchSlice window items.length)

/-! ## The computation -/

/-- The place of a point. -/
def placeAt (segments : List Segment) (point : Nat) : Checked Location := do
  if point < segments.length then
    let segment ← item segments point
    return segment.origin
  else
    let position ← subtract point 1
    let segment ← item segments position
    return segment.destination

/-- The item matches at a point. -/
def matchesAt (segments : List Segment) (geoPoint : GeoPoint) (point : Nat) : Checked Bool := do
  if segments.length < point then
    throw (.noSuchPoint point segments.length)
  else if geoPoint.allowedAt segments.length point then
    let place ← placeAt segments point
    return geoPoint.matcher.accepts place
  else
    return false

/-- The longest range of segments, from a first to a last one, that passes a test. -/
def largest (count : Nat) (test : Nat → Nat → Checked Bool) : Checked (Option Window) :=
  (List.range count).reverse.findSomeM? fun extra => do
    let lastStart ← subtract count (extra + 1)
    (List.range (lastStart + 1)).findSomeM? fun start => do
      let last ← subtract (start + (extra + 1)) 1
      let passed ← test start last
      return if passed then some ⟨start, last + 1⟩ else none

/-- The windows of the two segments at each connection that matches one of some points. -/
def touchedConnections (points : List GeoPoint) (segments : List Segment) :
    Checked (List Window) :=
  (List.range' 1 (segments.length - 1)).filterMapM fun point => do
    let matched ← points.anyM (matchesAt segments · point)
    if matched then
      let arriving ← subtract point 1
      return some ⟨arriving, point + 1⟩
    else
      return none

/-- The windows of the segments that arrive at one of some points or leave it. -/
def touched
    (hidden : HiddenStops)
    (points : List GeoPoint)
    (segments : List Segment) : Checked (List Window) := do
  let connections ←
    if hidden.countsConnections then touchedConnections points segments else pure []
  return connections ++
    if hidden.countsHiddenStops then GeoScope.touchedHiddenStops points segments else []

/-- A stop on the way inside the window matches the point. -/
def passes
    (hidden : HiddenStops)
    (via : GeoPoint)
    (segments : List Segment)
    (window : Window) : Checked Bool := do
  let atConnection ←
    pure hidden.countsConnections <&&> window.innerPoints.anyM (matchesAt segments via)
  let atHiddenStop ←
    pure hidden.countsHiddenStops <&&> do
      let inside ← slice window segments
      return inside.any fun segment => segment.hiddenStops.any via.matchesHidden
  return atConnection || atHiddenStop

/-- The window of a form, before the point that it has to pass is looked at. -/
def formWindow
    (hidden : HiddenStops)
    (segments : List Segment) : ScopeForm → Checked (Option Window)
  | .whole => return some ⟨0, segments.length⟩
  | .between first second =>
    largest segments.length fun start last =>
      (matchesAt segments first start <&&> matchesAt segments second (last + 1)) <||>
        (matchesAt segments second start <&&> matchesAt segments first (last + 1))
  | .within zone =>
    largest segments.length fun start last =>
      (Window.points ⟨start, last + 1⟩).allM (matchesAt segments zone)
  | .startingAt point => do
    let start? ← (List.range segments.length).findM? (matchesAt segments point)
    return start?.map fun start => ⟨start, segments.length⟩
  | .endingAt point => do
    let last? ← (List.range segments.length).reverse.findM? fun last =>
      matchesAt segments point (last + 1)
    return last?.map fun last => ⟨0, last + 1⟩
  | .through points => do
    let touched ← touched hidden points segments
    return Window.hull touched

/-- The window that the scope restricts a rule to, if there is one. -/
def window (scope : GeoScope) (segments : List Segment) : Checked (Option Window) := do
  let window? ← formWindow scope.hidden segments scope.form
  match window?, scope.via with
  | none, _ => return none
  | some window, none => return some window
  | some window, some via =>
    let passed ← passes scope.hidden via segments window
    return if passed then some window else none

/-! ## Searches in which no check fails -/

variable {α β : Type} {items : List α}

theorem anyM_eq
    {test : α → Checked Bool}
    {unchecked : α → Bool}
    (same : ∀ item ∈ items, test item = .ok (unchecked item)) :
    items.anyM test = .ok (items.any unchecked) := by
  induction items with
  | nil => rfl
  | cons item items inductionHypothesis =>
      obtain ⟨here, later⟩ := List.forall_mem_cons.1 same
      rw [List.anyM, here, List.any_cons]
      cases unchecked item with
      | false => exact inductionHypothesis later
      | true => rfl

theorem allM_eq
    {test : α → Checked Bool}
    {unchecked : α → Bool}
    (same : ∀ item ∈ items, test item = .ok (unchecked item)) :
    items.allM test = .ok (items.all unchecked) := by
  induction items with
  | nil => rfl
  | cons item items inductionHypothesis =>
      obtain ⟨here, later⟩ := List.forall_mem_cons.1 same
      rw [List.allM, here, List.all_cons]
      cases unchecked item with
      | false => rfl
      | true => exact inductionHypothesis later

theorem findSomeM?_eq
    {search : α → Checked (Option β)}
    {unchecked : α → Option β}
    (same : ∀ item ∈ items, search item = .ok (unchecked item)) :
    items.findSomeM? search = .ok (items.findSome? unchecked) := by
  induction items with
  | nil => rfl
  | cons item items inductionHypothesis =>
      obtain ⟨here, later⟩ := List.forall_mem_cons.1 same
      rw [List.findSomeM?, here, List.findSome?_cons]
      cases unchecked item with
      | none => exact inductionHypothesis later
      | some found => rfl

theorem findM?_eq
    {test : α → Checked Bool}
    {unchecked : α → Bool}
    (same : ∀ item ∈ items, test item = .ok (unchecked item)) :
    items.findM? test = .ok (items.find? unchecked) := by
  induction items with
  | nil => rfl
  | cons item items inductionHypothesis =>
      obtain ⟨here, later⟩ := List.forall_mem_cons.1 same
      rw [List.findM?, here, List.find?_cons]
      cases unchecked item with
      | false => exact inductionHypothesis later
      | true => rfl

theorem filterMapM_eq
    {select : α → Checked (Option β)}
    {unchecked : α → Option β}
    (same : ∀ item ∈ items, select item = .ok (unchecked item)) :
    items.filterMapM select = .ok (items.filterMap unchecked) := by
  induction items with
  | nil => rfl
  | cons item items inductionHypothesis =>
      obtain ⟨here, later⟩ := List.forall_mem_cons.1 same
      rw [List.filterMapM_cons, here, List.filterMap_cons]
      cases unchecked item with
      | none => exact inductionHypothesis later
      | some selected =>
          change (do
            let rest ← items.filterMapM select
            pure (selected :: rest) : Checked (List β)) = _
          rw [inductionHypothesis later]
          rfl

/-! ## No check fails -/

variable {segments : List Segment} {hidden : HiddenStops} {point : Nat}

theorem ok_bind (value : α) (next : α → Checked β) : Except.ok value >>= next = next value :=
  rfl

theorem subtract_eq {minuend subtrahend : Nat} (fits : subtrahend ≤ minuend) :
    subtract minuend subtrahend = .ok (minuend - subtrahend) :=
  if_pos fits

theorem item_eq {position : Nat} (inside : position < items.length) :
    item items position = .ok items[position] := by
  rw [item, List.getElem?_eq_getElem inside]

theorem slice_eq
    {window : Window}
    (ordered : window.start ≤ window.stop)
    (bounded : window.stop ≤ items.length) :
    slice window items = .ok (window.slice items) :=
  if_pos ⟨ordered, bounded⟩

/-- Every point of a journey with segments has a place. -/
theorem exists_placeAt_eq
    (nonempty : segments ≠ [])
    (bounded : point ≤ segments.length) :
    ∃ place, placeAt segments point = .ok place ∧
      FlightRule.placeAt segments point = some place := by
  have positive : 0 < segments.length := List.length_pos_iff.2 nonempty
  by_cases inner : point < segments.length
  · refine ⟨segments[point].origin, ?_, ?_⟩
    · rw [placeAt, if_pos inner, item_eq inner]
      rfl
    · simp [FlightRule.placeAt, inner]
  · obtain rfl : point = segments.length := by omega
    have inside : segments.length - 1 < segments.length := by omega
    refine ⟨segments[segments.length - 1].destination, ?_, ?_⟩
    · rw [placeAt, if_neg inner, subtract_eq positive, ok_bind, item_eq inside]
      rfl
    · simp [FlightRule.placeAt, inside]

/-- Without segments there is not even the place of the first point. -/
example : placeAt [] 0 = .error (.belowZero 0 1) := rfl

/-- A point of a journey with segments is looked at without fail. -/
theorem matchesAt_eq
    (nonempty : segments ≠ [])
    (bounded : point ≤ segments.length)
    (geoPoint : GeoPoint) :
    matchesAt segments geoPoint point = .ok (geoPoint.matchesAt segments point) := by
  obtain ⟨place, placed, found⟩ := exists_placeAt_eq nonempty bounded
  rw [matchesAt, if_neg (Nat.not_lt.2 bounded), GeoPoint.matchesAt, found, placed]
  cases geoPoint.allowedAt segments.length point <;> rfl

/-- Where the checked test gives what the test gives, so do the searches. -/
theorem largest_eq
    {count : Nat}
    {test : Nat → Nat → Checked Bool}
    {unchecked : Window → Bool}
    (same : ∀ start last, start ≤ last → last < count →
      test start last = .ok (unchecked ⟨start, last + 1⟩)) :
    largest count test = .ok (Window.largest count unchecked) := by
  rw [Window.largest, Window.candidates, List.find?_flatMap]
  apply findSomeM?_eq
  intro extra listed
  have fits : extra + 1 ≤ count := by
    rw [List.mem_reverse, List.mem_range] at listed
    exact listed
  have starts : count - (extra + 1) + 1 = count - extra := by omega
  rw [subtract_eq fits, ok_bind, starts, List.find?_eq_findSome?_guard, List.findSome?_map]
  apply findSomeM?_eq
  intro start startListed
  have inside : start + extra < count := by
    rw [List.mem_range] at startListed
    omega
  have last_eq : start + (extra + 1) - 1 = start + extra := by omega
  rw [subtract_eq (by omega), ok_bind, last_eq, same start (start + extra) (by omega) inside]
  rfl

/-- The connections that are touched are found without fail. -/
theorem touchedConnections_eq (points : List GeoPoint) :
    touchedConnections points segments =
      .ok (GeoScope.touchedConnections points segments) := by
  rw [GeoScope.touchedConnections, ← List.filterMap_eq_map, List.filterMap_filter]
  apply filterMapM_eq
  intro point listed
  have between : 1 ≤ point ∧ point < segments.length := by
    rw [List.mem_range'_1] at listed
    omega
  have nonempty : segments ≠ [] := by
    rintro rfl
    exact Nat.not_lt_zero _ between.2
  rw [anyM_eq fun geoPoint _ => matchesAt_eq nonempty (Nat.le_of_lt between.2) geoPoint, ok_bind]
  split
  · rw [subtract_eq between.1, ok_bind]
    rfl
  · rfl

theorem touched_eq (points : List GeoPoint) :
    touched hidden points segments = .ok (GeoScope.touched hidden points segments) := by
  rw [touched, touchedConnections_eq, GeoScope.touched]
  cases hidden.countsConnections <;> rfl

/-- Whether a window inside the journey passes a place is found without fail. -/
theorem passes_eq
    {window : Window}
    (ordered : window.start ≤ window.stop)
    (bounded : window.stop ≤ segments.length)
    (via : GeoPoint) :
    passes hidden via segments window = .ok (GeoScope.passes hidden via segments window) := by
  have atConnection :
      window.innerPoints.anyM (matchesAt segments via) =
        .ok (window.innerPoints.any (via.matchesAt segments)) := by
    apply anyM_eq
    intro point inner
    rw [Window.innerPoints, List.mem_range'_1] at inner
    have nonempty : segments ≠ [] := by
      rintro rfl
      simp only [List.length_nil] at bounded
      omega
    exact matchesAt_eq nonempty (by omega) via
  rw [passes, atConnection, slice_eq ordered bounded, GeoScope.passes]
  cases hidden.countsConnections <;>
    cases hidden.countsHiddenStops <;>
      cases window.innerPoints.any (via.matchesAt segments) <;> rfl

/--
The window of every form is found without fail, since points are only looked at where the journey
has a segment.
-/
theorem formWindow_eq (form : ScopeForm) :
    formWindow hidden segments form = .ok (GeoScope.formWindow hidden segments form) := by
  have matches_eq
      {position : Nat}
      (inside : position < segments.length)
      (geoPoint : GeoPoint)
      (point : Nat)
      (bounded : point ≤ segments.length) :
      matchesAt segments geoPoint point = .ok (geoPoint.matchesAt segments point) := by
    refine matchesAt_eq ?_ bounded geoPoint
    rintro rfl
    exact Nat.not_lt_zero _ inside
  cases form with
  | whole => rfl
  | between first second =>
      apply largest_eq
      intro start last ordered inside
      have starts (geoPoint : GeoPoint) := matches_eq inside geoPoint start (by omega)
      have stops (geoPoint : GeoPoint) := matches_eq inside geoPoint (last + 1) inside
      rw [starts, starts, stops, stops]
      cases first.matchesAt segments start <;>
        cases second.matchesAt segments (last + 1) <;>
          cases second.matchesAt segments start <;> rfl
  | within zone =>
      apply largest_eq
      intro start last ordered inside
      apply allM_eq
      intro point listed
      have between : start ≤ point ∧ point < start + (last + 1 + 1 - start) :=
        List.mem_range'_1.1 listed
      exact matches_eq inside zone point (by omega)
  | startingAt geoPoint =>
      have found : (List.range segments.length).findM? (matchesAt segments geoPoint) =
          .ok ((List.range segments.length).find? (geoPoint.matchesAt segments)) := by
        apply findM?_eq
        intro start listed
        have inside := List.mem_range.1 listed
        exact matches_eq inside geoPoint start (Nat.le_of_lt inside)
      rw [formWindow, found]
      rfl
  | endingAt geoPoint =>
      have found : ((List.range segments.length).reverse.findM? fun last =>
            matchesAt segments geoPoint (last + 1)) =
          .ok ((List.range segments.length).reverse.find? fun last =>
            geoPoint.matchesAt segments (last + 1)) := by
        apply findM?_eq
        intro last listed
        have inside := List.mem_range.1 (List.mem_reverse.1 listed)
        exact matches_eq inside geoPoint (last + 1) inside
      rw [formWindow, found]
      rfl
  | through points =>
      rw [formWindow, touched_eq]
      rfl

/-! ## The bounds of windows -/

/-- A window stays inside the journey, and it has a segment unless it is the journey without any. -/
theorem bounds_of_formWindow
    {form : ScopeForm}
    {window : Window}
    (found : GeoScope.formWindow hidden segments form = some window) :
    window.start ≤ window.stop ∧ window.stop ≤ segments.length ∧
      (window.start < window.stop ∨ form = .whole ∧ segments = []) := by
  have bounds_of_nonempty
      (nonempty : window.start < window.stop)
      (bounded : window.stop ≤ segments.length) :
      window.start ≤ window.stop ∧ window.stop ≤ segments.length ∧
        (window.start < window.stop ∨ form = .whole ∧ segments = []) :=
    ⟨Nat.le_of_lt nonempty, bounded, .inl nonempty⟩
  cases form with
  | whole =>
      obtain rfl : (⟨0, segments.length⟩ : Window) = window := Option.some.inj found
      cases segments with
      | nil => exact ⟨Nat.le_refl _, Nat.le_refl _, .inr ⟨rfl, rfl⟩⟩
      | cons => exact bounds_of_nonempty (Nat.succ_pos _) (Nat.le_refl _)
  | between first second =>
      have inside := (Window.spec_of_largest found).1
      exact bounds_of_nonempty inside.1 inside.2
  | within zone =>
      have inside := (Window.spec_of_largest found).1
      exact bounds_of_nonempty inside.1 inside.2
  | startingAt geoPoint =>
      obtain ⟨start, earliest, rfl⟩ := Option.map_eq_some_iff.1 found
      have inside : start < segments.length := List.mem_range.1 (List.mem_of_find?_eq_some earliest)
      exact bounds_of_nonempty inside (Nat.le_refl _)
  | endingAt geoPoint =>
      obtain ⟨last, latest, rfl⟩ := Option.map_eq_some_iff.1 found
      have inside : last < segments.length := by simpa using List.mem_of_find?_eq_some latest
      exact bounds_of_nonempty (Nat.succ_pos _) inside
  | through points =>
      have inside := GeoScope.inside_of_hull_touched found
      exact bounds_of_nonempty inside.1 inside.2

/-- The window that is found with all positions checked is the window. -/
theorem window_eq (scope : GeoScope) (segments : List Segment) :
    window scope segments = .ok (scope.window segments) := by
  rw [window, formWindow_eq, ok_bind, GeoScope.window]
  cases found : GeoScope.formWindow scope.hidden segments scope.form with
  | none => rfl
  | some window =>
      obtain ⟨ordered, bounded, _⟩ := bounds_of_formWindow found
      cases scope.via with
      | none => rfl
      | some via =>
          simp only [passes_eq ordered bounded via, ok_bind, Option.all_some, Option.filter_some]
          rfl

end Checked
end FlightRule
