import FlightRule.Geo.Scope

/-!
# What the search for windows looks at

The window of a scope is found by the places of a journey alone: by those where its segments depart
and arrive, and by their hidden stops.  A change of the segments that puts every place where no
matcher tells the difference leaves the windows of all scopes as they are
(`KeepsPlaces.window_map`).  In particular nothing else of a segment has an effect on them
(`GeoScope.window_placesOnly`).
-/

namespace FlightRule

@[simp] theorem Window.slice_map
    {α β : Type}
    (window : Window)
    (change : α → β)
    (items : List α) :
    window.slice (items.map change) = (window.slice items).map change := by
  rw [slice, slice, ← List.map_take, ← List.map_drop]

/-- A change of segments that puts their places where every matcher accepts them as before. -/
structure KeepsPlaces
    (change : Segment → Segment)
    (move : Location → Location) : Prop where
  origin_eq : ∀ segment, (change segment).origin = move segment.origin
  destination_eq : ∀ segment, (change segment).destination = move segment.destination
  hiddenStops_eq : ∀ segment, (change segment).hiddenStops = segment.hiddenStops.map move
  accepts_eq : ∀ (matcher : PlaceMatcher) (place : Location),
    matcher.accepts (move place) = matcher.accepts place

namespace KeepsPlaces

variable
  {change : Segment → Segment}
  {move : Location → Location}
  (keeps : KeepsPlaces change move)
  (segments : List Segment)

include keeps

theorem placeAt_map (point : Nat) :
    placeAt (segments.map change) point = (placeAt segments point).map move := by
  unfold placeAt
  rw [List.getElem?_map, List.getElem?_map]
  cases segments[point]? with
  | some segment => exact congrArg some (keeps.origin_eq segment)
  | none =>
      cases segments[point - 1]? with
      | some segment => exact congrArg some (keeps.destination_eq segment)
      | none => rfl

theorem matchesAt_map (geoPoint : GeoPoint) :
    geoPoint.matchesAt (segments.map change) = geoPoint.matchesAt segments := by
  funext point
  rw [GeoPoint.matchesAt, GeoPoint.matchesAt, List.length_map, keeps.placeAt_map, Option.any_map]
  simp only [keeps.accepts_eq]

theorem matchesHidden_move (geoPoint : GeoPoint) (stop : Location) :
    geoPoint.matchesHidden (move stop) = geoPoint.matchesHidden stop := by
  rw [GeoPoint.matchesHidden, GeoPoint.matchesHidden, keeps.accepts_eq]

theorem touchedConnections_map (points : List GeoPoint) :
    GeoScope.touchedConnections points (segments.map change) =
      GeoScope.touchedConnections points segments := by
  simp only [GeoScope.touchedConnections, List.length_map, keeps.matchesAt_map]

theorem touchedHiddenStops_map (points : List GeoPoint) :
    GeoScope.touchedHiddenStops points (segments.map change) =
      GeoScope.touchedHiddenStops points segments := by
  simp only [GeoScope.touchedHiddenStops, List.zipIdx_map, List.filter_map, List.map_map,
    Function.comp_def, Prod.map, id, keeps.hiddenStops_eq, List.any_map, keeps.matchesHidden_move]

theorem touched_map (hidden : HiddenStops) (points : List GeoPoint) :
    GeoScope.touched hidden points (segments.map change) =
      GeoScope.touched hidden points segments := by
  rw [GeoScope.touched, GeoScope.touched, keeps.touchedConnections_map,
    keeps.touchedHiddenStops_map]

theorem passes_map (hidden : HiddenStops) (via : GeoPoint) (window : Window) :
    GeoScope.passes hidden via (segments.map change) window =
      GeoScope.passes hidden via segments window := by
  simp only [GeoScope.passes, Window.slice_map, List.any_map, Function.comp_def,
    keeps.matchesAt_map, keeps.hiddenStops_eq, keeps.matchesHidden_move]

/-- Every form has the same window. -/
theorem formWindow_map (hidden : HiddenStops) (form : ScopeForm) :
    GeoScope.formWindow hidden (segments.map change) form =
      GeoScope.formWindow hidden segments form := by
  cases form with
  | whole => simp only [GeoScope.formWindow, List.length_map]
  | between first second =>
      simp only [GeoScope.formWindow, List.length_map, keeps.matchesAt_map]
  | within zone => simp only [GeoScope.formWindow, List.length_map, keeps.matchesAt_map]
  | startingAt point => simp only [GeoScope.formWindow, List.length_map, keeps.matchesAt_map]
  | endingAt point => simp only [GeoScope.formWindow, List.length_map, keeps.matchesAt_map]
  | through points => simp only [GeoScope.formWindow, keeps.touched_map]

/-- A change that keeps the places of segments for all matchers keeps the windows of all scopes. -/
theorem window_map (scope : GeoScope) :
    scope.window (segments.map change) = scope.window segments := by
  simp only [GeoScope.window, keeps.formWindow_map, keeps.passes_map]

end KeepsPlaces

/-- The segment with nothing but its places, as if it were travelled on the ground. -/
def Segment.placesOnly (segment : Segment) : Segment :=
  { surface segment.origin segment.destination with hiddenStops := segment.hiddenStops }

theorem Segment.keepsPlaces_placesOnly : KeepsPlaces placesOnly id where
  origin_eq := fun _ => rfl
  destination_eq := fun _ => rfl
  hiddenStops_eq := fun segment => (List.map_id segment.hiddenStops).symm
  accepts_eq := fun _ _ => rfl

/-- Windows are found by places alone. -/
theorem GeoScope.window_placesOnly (scope : GeoScope) (segments : List Segment) :
    scope.window (segments.map Segment.placesOnly) = scope.window segments :=
  Segment.keepsPlaces_placesOnly.window_map segments scope

end FlightRule
