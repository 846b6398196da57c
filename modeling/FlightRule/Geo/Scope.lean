import FlightRule.Context
import FlightRule.Travel
import FlightRule.Record.Coding

/-!
# Geographic scopes

The points of a journey of `n` segments are numbered from 0 to `n`: a point before the last is the
origin of the segment with its number, and the last is the destination of the last segment.  A
window is a range of segments of a journey, from the position of its first segment to the position
behind its last one.

A geographic scope restricts a rule to a window of the journey, `GeoScope.window`.  The window
exists as a whole or not at all.
-/

namespace FlightRule

/-! ## Points of a journey -/

/-- The place of a point, if the journey has the point. -/
def placeAt (segments : List Segment) (point : Nat) : Option Location :=
  match segments[point]? with
  | some segment => some segment.origin
  | none => (segments[point - 1]?).map Segment.destination

/-- A geographic item that can be looked for on a journey. -/
structure GeoPoint where
  matcher : PlaceMatcher
  boundary : Boundary := {}
deriving Repr

namespace GeoPoint

/-- The item may match at a point of a journey with the given number of segments. -/
def allowedAt (geoPoint : GeoPoint) (segmentCount point : Nat) : Bool :=
  if point = 0 then geoPoint.boundary.origin
  else if point = segmentCount then geoPoint.boundary.destination
  else geoPoint.boundary.intermediate

/-- The item matches at a point. -/
def matchesAt (geoPoint : GeoPoint) (segments : List Segment) (point : Nat) : Bool :=
  geoPoint.allowedAt segments.length point && (placeAt segments point).any geoPoint.matcher.accepts

/-- The item matches at a hidden stop. -/
def matchesHidden (geoPoint : GeoPoint) (stop : Location) : Bool :=
  geoPoint.boundary.intermediate && geoPoint.matcher.accepts stop

end GeoPoint

/-! ## Windows -/

/-- A range of segments. -/
structure Window where
  /-- The position of the first segment. -/
  start : Nat
  /-- The position behind the last segment. -/
  stop : Nat
deriving DecidableEq, Repr, Inhabited

namespace Window

/-- The items of a list at the positions of the window. -/
def slice {α : Type} (window : Window) (items : List α) : List α :=
  (items.take window.stop).drop window.start

/-- All windows with a segment in a journey of `count` segments, longer and earlier ones first. -/
def candidates (count : Nat) : List Window :=
  (List.range count).reverse.flatMap fun extra =>
    (List.range (count - extra)).map fun start => ⟨start, start + extra + 1⟩

/-- The candidates are the windows with a segment that stay inside the journey. -/
theorem mem_candidates {count : Nat} {window : Window} :
    window ∈ candidates count ↔ window.start < window.stop ∧ window.stop ≤ count := by
  obtain ⟨start, stop⟩ := window
  simp only [candidates, List.mem_flatMap, List.mem_reverse, List.mem_range, List.mem_map,
    Window.mk.injEq]
  constructor
  · rintro ⟨extra, _, first, _, rfl, rfl⟩
    omega
  · rintro ⟨_, _⟩
    exact ⟨stop - start - 1, by omega, start, by omega, rfl, by omega⟩

/-- The longest window that passes a test, and of several the earliest. -/
def largest (count : Nat) (test : Window → Bool) : Option Window :=
  (candidates count).find? test

/-- The points of the window, its two ends included. -/
def points (window : Window) : List Nat :=
  List.range' window.start (window.stop + 1 - window.start)

/-- The points between two segments of the window. -/
def innerPoints (window : Window) : List Nat :=
  List.range' (window.start + 1) (window.stop - (window.start + 1))

/-- The smallest window around two windows. -/
def join (left right : Window) : Window :=
  ⟨min left.start right.start, max left.stop right.stop⟩

/-- The smallest window around all windows of a list. -/
def hull : List Window → Option Window
  | [] => none
  | window :: windows => some (windows.foldl join window)

end Window

/-! ## Scopes -/

/-- How a window is found on a journey. -/
inductive ScopeForm where
  /-- The whole journey. -/
  | whole
  /-- The largest window from one of two points to the other. -/
  | between (first second : GeoPoint)
  /-- The largest window with all its points in one place. -/
  | within (zone : GeoPoint)
  /-- From the first segment that starts at a point to the end of the journey. -/
  | startingAt (point : GeoPoint)
  /-- From the start of the journey to the last segment that ends at a point. -/
  | endingAt (point : GeoPoint)
  /-- From the first to the last segment that touches one of the points. -/
  | through (points : List GeoPoint)
deriving Repr

/-- A restriction of a rule to a window of the journey. -/
structure GeoScope where
  form : ScopeForm := .whole
  /-- A point that the window has to pass. -/
  via : Option GeoPoint := none
  hidden : HiddenStops := .blank
  polarity : ViaPolarity := .blank
deriving Repr

/-- Connections count as stops on the way. -/
def HiddenStops.countsConnections (hidden : HiddenStops) : Bool :=
  hidden != .yes

/-- Hidden stops count as stops on the way. -/
def HiddenStops.countsHiddenStops (hidden : HiddenStops) : Bool :=
  hidden != .no

namespace GeoScope

/-- The way by the points of the scope is forbidden, so that the witness is turned round. -/
def forbidsPassage (scope : GeoScope) : Bool :=
  scope.polarity == .mustNot &&
    (scope.via.isSome || match scope.form with
      | .through _ => true
      | _ => false)

/-- The windows of the two segments at each connection that matches one of some points. -/
def touchedConnections (points : List GeoPoint) (segments : List Segment) : List Window :=
  ((List.range' 1 (segments.length - 1)).filter fun point =>
      points.any (·.matchesAt segments point)).map fun point => ⟨point - 1, point + 1⟩

/-- The windows of the single segments with a hidden stop that matches one of some points. -/
def touchedHiddenStops (points : List GeoPoint) (segments : List Segment) : List Window :=
  (segments.zipIdx.filter fun (segment, _) =>
      segment.hiddenStops.any fun stop => points.any (·.matchesHidden stop)).map
    fun (_, position) => ⟨position, position + 1⟩

/-- The windows of the segments that arrive at one of some points or leave it. -/
def touched
    (hidden : HiddenStops)
    (points : List GeoPoint)
    (segments : List Segment) : List Window :=
  (if hidden.countsConnections then touchedConnections points segments else []) ++
    if hidden.countsHiddenStops then touchedHiddenStops points segments else []

/-- A stop on the way inside the window matches the point. -/
def passes
    (hidden : HiddenStops)
    (via : GeoPoint)
    (segments : List Segment)
    (window : Window) : Bool :=
  (hidden.countsConnections && window.innerPoints.any (via.matchesAt segments)) ||
    (hidden.countsHiddenStops &&
      (window.slice segments).any fun segment => segment.hiddenStops.any via.matchesHidden)

/-- The window of a form, before the point that it has to pass is looked at. -/
def formWindow
    (hidden : HiddenStops)
    (segments : List Segment) : ScopeForm → Option Window
  | .whole => some ⟨0, segments.length⟩
  | .between first second =>
    Window.largest segments.length fun window =>
      (first.matchesAt segments window.start && second.matchesAt segments window.stop) ||
        (second.matchesAt segments window.start && first.matchesAt segments window.stop)
  | .within zone =>
    Window.largest segments.length fun window => window.points.all (zone.matchesAt segments)
  | .startingAt point =>
    ((List.range segments.length).find? (point.matchesAt segments)).map fun start =>
      ⟨start, segments.length⟩
  | .endingAt point =>
    ((List.range segments.length).reverse.find? fun last =>
      point.matchesAt segments (last + 1)).map fun last => ⟨0, last + 1⟩
  | .through points => Window.hull (touched hidden points segments)

/-- The window that the scope restricts a rule to, if there is one. -/
def window (scope : GeoScope) (segments : List Segment) : Option Window :=
  (formWindow scope.hidden segments scope.form).filter fun window =>
    scope.via.all fun via => passes scope.hidden via segments window

end GeoScope

end FlightRule
