import FlightRule.Geo.Scope

/-!
# The ends of windows

One place stands for the point between two segments: the origin of the second one.  It is the
place of departure of the second segment, and that of arrival of the first one only where the two
meet.  So a window always starts with a departure that its scope asks for, and it ends with such an
arrival unless the item can tell the arrival from the departure behind it (`window_ends`).  Where a
journey has a gap, a window can end with an arrival at a place that no item names, and an arrival
can be missed (`window_ends_of_gap`).
-/

namespace FlightRule
namespace GeoPoint

/-- The item matches where the segment at a position departs. -/
def MatchesDeparture (point : GeoPoint) (segments : List Segment) (position : Nat) : Prop :=
  point.allowedAt segments.length position = true ∧
    ∃ segment ∈ segments[position]?, point.matcher.accepts segment.origin = true

/-- The item matches where the segment at a position arrives. -/
def MatchesArrival (point : GeoPoint) (segments : List Segment) (position : Nat) : Prop :=
  point.allowedAt segments.length (position + 1) = true ∧
    ∃ segment ∈ segments[position]?, point.matcher.accepts segment.destination = true

/--
The item does not tell the arrival of the segment at a position from the departure of the segment
behind it, if there is one.
-/
def SeesNoGapBehind (point : GeoPoint) (segments : List Segment) (position : Nat) : Prop :=
  ∀ arriving ∈ segments[position]?, ∀ departing ∈ segments[position + 1]?,
    point.matcher.accepts arriving.destination = point.matcher.accepts departing.origin

instance (point : GeoPoint) (segments : List Segment) (position : Nat) :
    Decidable (point.MatchesDeparture segments position) :=
  inferInstanceAs (Decidable (_ ∧ ∃ segment ∈ segments[position]?, _ = true))

instance (point : GeoPoint) (segments : List Segment) (position : Nat) :
    Decidable (point.MatchesArrival segments position) :=
  inferInstanceAs (Decidable (_ ∧ ∃ segment ∈ segments[position]?, _ = true))

variable
  {point : GeoPoint}
  {segments : List Segment}
  {position : Nat}

/-- Where a segment departs from the place at which the one before it arrives, there is no gap. -/
theorem seesNoGapBehind_of_meet
    (meet : ∀ arriving ∈ segments[position]?, ∀ departing ∈ segments[position + 1]?,
      arriving.destination = departing.origin) :
    point.SeesNoGapBehind segments position := by
  intro arriving arrives departing departs
  rw [meet arriving arrives departing departs]

/-! ## Points and segments -/

/-- A point before the last is the departure of its segment. -/
theorem matchesAt_iff_matchesDeparture (inside : position < segments.length) :
    point.matchesAt segments position = true ↔ point.MatchesDeparture segments position := by
  have present : segments[position]? = some segments[position] := List.getElem?_eq_getElem inside
  simp [matchesAt, MatchesDeparture, placeAt, present]

/-- The point behind a segment is its arrival, unless there is a gap. -/
theorem matchesAt_succ_iff_matchesArrival
    (inside : position < segments.length)
    (noGap : point.SeesNoGapBehind segments position) :
    point.matchesAt segments (position + 1) = true ↔ point.MatchesArrival segments position := by
  have present : segments[position]? = some segments[position] := List.getElem?_eq_getElem inside
  have place_accepted :
      (placeAt segments (position + 1)).any point.matcher.accepts =
        point.matcher.accepts segments[position].destination := by
    unfold placeAt
    cases behind : segments[position + 1]? with
    | none => simp [present]
    | some departing => exact (noGap _ present departing behind).symm
  rw [matchesAt, place_accepted]
  simp [MatchesArrival, present]

end GeoPoint

/-- The largest window that passes a test has a segment, stays inside the journey, and passes. -/
theorem Window.spec_of_largest
    {count : Nat}
    {test : Window → Bool}
    {window : Window}
    (found : largest count test = some window) :
    (window.start < window.stop ∧ window.stop ≤ count) ∧ test window = true :=
  ⟨mem_candidates.1 (List.mem_of_find?_eq_some found), List.find?_some found⟩

namespace GeoScope

variable
  {scope : GeoScope}
  {hidden : HiddenStops}
  {segments : List Segment}
  {window : Window}
  {point first second zone : GeoPoint}

/-- A window that passes the required point is the window of the form. -/
theorem formWindow_of_window (found : scope.window segments = some window) :
    formWindow scope.hidden segments scope.form = some window :=
  (Option.filter_eq_some_iff.1 found).1

theorem window_of_via_eq_none (noVia : scope.via = none) :
    scope.window segments = formWindow scope.hidden segments scope.form := by
  simp only [window, noVia, Option.all_none]
  cases formWindow scope.hidden segments scope.form <;> rfl

/-! ## The ends of the forms -/

/--
A window between two points starts at one of them and, if no gap is seen behind its last segment,
arrives at the other.
-/
theorem ends_of_between
    (found : formWindow hidden segments (.between first second) = some window) :
    ∃ last, window.stop = last + 1 ∧
      (first.MatchesDeparture segments window.start ∧
          (second.SeesNoGapBehind segments last → second.MatchesArrival segments last) ∨
        second.MatchesDeparture segments window.start ∧
          (first.SeesNoGapBehind segments last → first.MatchesArrival segments last)) := by
  obtain ⟨⟨nonempty, bounded⟩, orientation⟩ := Window.spec_of_largest found
  obtain ⟨last, stop_eq⟩ : ∃ last, window.stop = last + 1 := Nat.exists_eq_add_one.2 (by omega)
  have start_inside : window.start < segments.length := by omega
  have last_inside : last < segments.length := by omega
  simp only [stop_eq, Bool.or_eq_true, Bool.and_eq_true] at orientation
  refine ⟨last, stop_eq, orientation.imp ?_ ?_⟩
  · rintro ⟨departs, arrives⟩
    exact ⟨(GeoPoint.matchesAt_iff_matchesDeparture start_inside).1 departs,
      fun noGap => (GeoPoint.matchesAt_succ_iff_matchesArrival last_inside noGap).1 arrives⟩
  · rintro ⟨departs, arrives⟩
    exact ⟨(GeoPoint.matchesAt_iff_matchesDeparture start_inside).1 departs,
      fun noGap => (GeoPoint.matchesAt_succ_iff_matchesArrival last_inside noGap).1 arrives⟩

/--
A window within a zone departs in it with every segment and, if no gap is seen behind one, arrives
in it.
-/
theorem ends_of_within
    (found : formWindow hidden segments (.within zone) = some window) :
    window.start < window.stop ∧
      ∀ position, window.start ≤ position → position < window.stop →
        zone.MatchesDeparture segments position ∧
          (zone.SeesNoGapBehind segments position → zone.MatchesArrival segments position) := by
  obtain ⟨⟨nonempty, bounded⟩, inZone⟩ := Window.spec_of_largest found
  refine ⟨nonempty, fun position started notEnded => ?_⟩
  have inside : position < segments.length := by omega
  have matchesAt (other : Nat) (before : window.start ≤ other) (behind : other ≤ window.stop) :
      zone.matchesAt segments other = true := by
    apply List.all_eq_true.1 inZone
    rw [Window.points, List.mem_range'_1]
    omega
  exact ⟨(GeoPoint.matchesAt_iff_matchesDeparture inside).1
      (matchesAt position started (by omega)),
    fun noGap => (GeoPoint.matchesAt_succ_iff_matchesArrival inside noGap).1
      (matchesAt (position + 1) (by omega) notEnded)⟩

/-- A window from a point departs there. -/
theorem ends_of_startingAt
    (found : formWindow hidden segments (.startingAt point) = some window) :
    point.MatchesDeparture segments window.start := by
  obtain ⟨start, earliest, rfl⟩ := Option.map_eq_some_iff.1 found
  have inside : start < segments.length := List.mem_range.1 (List.mem_of_find?_eq_some earliest)
  exact (GeoPoint.matchesAt_iff_matchesDeparture inside).1 (List.find?_some earliest)

/-- A window to a point arrives there, if no gap is seen behind its last segment. -/
theorem ends_of_endingAt
    (found : formWindow hidden segments (.endingAt point) = some window) :
    ∃ last, window.stop = last + 1 ∧
      (point.SeesNoGapBehind segments last → point.MatchesArrival segments last) := by
  obtain ⟨last, latest, rfl⟩ := Option.map_eq_some_iff.1 found
  have inside : last < segments.length := by
    simpa using List.mem_of_find?_eq_some latest
  have arrives := List.find?_some latest
  exact ⟨last, rfl,
    fun noGap => (GeoPoint.matchesAt_succ_iff_matchesArrival inside noGap).1 arrives⟩

/-- Where a segment arrives at the item without a gap behind it, a window ends, here or later. -/
theorem isSome_formWindow_endingAt
    {position : Nat}
    (noGap : point.SeesNoGapBehind segments position)
    (arrives : point.MatchesArrival segments position) :
    (formWindow hidden segments (.endingAt point)).isSome = true := by
  obtain ⟨_, segment, present, _⟩ := id arrives
  have inside : position < segments.length := (List.getElem?_eq_some_iff.1 present).1
  rw [formWindow, Option.isSome_map, List.find?_isSome]
  exact ⟨position, by simpa using inside,
    (GeoPoint.matchesAt_succ_iff_matchesArrival inside noGap).2 arrives⟩

end GeoScope

/-- An item without boundary may match at every point. -/
theorem GeoPoint.allowedAt_of_boundary
    {point : GeoPoint}
    (unbounded : point.boundary = ⟨true, true, true⟩)
    (segmentCount position : Nat) :
    point.allowedAt segmentCount position = true := by
  simp [allowedAt, unbounded]

/--
The ends of a window are those of its own segments, as far as the journey has no gap behind them.
A window between two items departs from one of them and arrives at the other one; a window inside
one item departs from it and arrives at it with every segment; a window from an item departs from
it, and a window to an item arrives at it.  If some segment arrives at an item that may match
everywhere, and the item sees no gap behind that segment, then there is a window to the item.
-/
theorem window_ends
    (scope : GeoScope)
    (segments : List Segment) :
    (∀ window, scope.window segments = some window →
      match scope.form with
      | .between first second =>
          ∃ last, window.stop = last + 1 ∧
            (first.MatchesDeparture segments window.start ∧
                (second.SeesNoGapBehind segments last → second.MatchesArrival segments last) ∨
              second.MatchesDeparture segments window.start ∧
                (first.SeesNoGapBehind segments last → first.MatchesArrival segments last))
      | .within zone =>
          window.start < window.stop ∧
            ∀ position, window.start ≤ position → position < window.stop →
              zone.MatchesDeparture segments position ∧
                (zone.SeesNoGapBehind segments position → zone.MatchesArrival segments position)
      | .startingAt point => point.MatchesDeparture segments window.start
      | .endingAt point =>
          ∃ last, window.stop = last + 1 ∧
            (point.SeesNoGapBehind segments last → point.MatchesArrival segments last)
      | .whole | .through _ => True) ∧
    ∀ point, scope.form = .endingAt point → scope.via = none →
      point.boundary = ⟨true, true, true⟩ →
      ∀ position segment, segments[position]? = some segment →
        point.matcher.accepts segment.destination = true →
        point.SeesNoGapBehind segments position →
          ∃ window, scope.window segments = some window := by
  constructor
  · intro window found
    have ofForm := GeoScope.formWindow_of_window found
    cases form_eq : scope.form with
    | whole => trivial
    | between first second => exact GeoScope.ends_of_between (form_eq ▸ ofForm)
    | within zone => exact GeoScope.ends_of_within (form_eq ▸ ofForm)
    | startingAt point => exact GeoScope.ends_of_startingAt (form_eq ▸ ofForm)
    | endingAt point => exact GeoScope.ends_of_endingAt (form_eq ▸ ofForm)
    | through points => trivial
  · intro point form_eq noVia unbounded position segment present accepted noGap
    have arrives : point.MatchesArrival segments position :=
      ⟨GeoPoint.allowedAt_of_boundary unbounded _ _, segment, present, accepted⟩
    rw [GeoScope.window_of_via_eq_none noVia, form_eq, ← Option.isSome_iff_exists]
    exact GeoScope.isSome_formWindow_endingAt noGap arrives

/-- A scope that ends at an airport. -/
def toAirport (code : String) : GeoScope where
  form := .endingAt { matcher := .airport code }

/-- Two flights by way of Atlanta, and then a third one that departs from somewhere else. -/
def journeyWithGap : List Segment :=
  [.air "DL" 1 (.ofAirport "MIA" "US" "1") (.ofAirport "ATL" "US" "1"),
    .air "DL" 2 (.ofAirport "ATL" "US" "1") (.ofAirport "LON" "GB" "2"),
    .air "DL" 3 (.ofAirport "JFK" "US" "1") (.ofAirport "SEA" "US" "1")]

/-- The gap does no harm to a window that ends before it. -/
theorem window_ends_at_connection :
    (toAirport "ATL").window journeyWithGap = some ⟨0, 1⟩ ∧
      (GeoPoint.mk (.airport "ATL") {}).MatchesArrival journeyWithGap 0 := by
  have found : (toAirport "ATL").window journeyWithGap = some ⟨0, 1⟩ := by decide
  refine ⟨found, ?_⟩
  obtain ⟨last, stop_eq, arrives⟩ := (window_ends (toAirport "ATL") journeyWithGap).1 _ found
  obtain rfl : last = 0 := by simpa using stop_eq.symm
  apply arrives
  apply GeoPoint.seesNoGapBehind_of_meet
  decide

/--
At the gap an arrival is missed, and windows end with an arrival at a place that is not asked for.
-/
theorem window_ends_of_gap :
    ((GeoPoint.mk (.airport "LON") {}).MatchesArrival journeyWithGap 1 ∧
      (toAirport "LON").window journeyWithGap = none) ∧
    ((toAirport "JFK").window journeyWithGap = some ⟨0, 2⟩ ∧
      ¬(GeoPoint.mk (.airport "JFK") {}).MatchesArrival journeyWithGap 1) ∧
    (GeoScope.window
        { form := .between { matcher := .airport "MIA" } { matcher := .airport "JFK" } }
        journeyWithGap = some ⟨0, 2⟩ ∧
      ¬(GeoPoint.mk (.airport "MIA") {}).MatchesArrival journeyWithGap 1 ∧
      ¬(GeoPoint.mk (.airport "JFK") {}).MatchesArrival journeyWithGap 1) ∧
    (GeoScope.window { form := .within { matcher := .nation "US" } } journeyWithGap =
        some ⟨0, 3⟩ ∧
      ¬(GeoPoint.mk (.nation "US") {}).MatchesArrival journeyWithGap 1) := by
  decide

end FlightRule
