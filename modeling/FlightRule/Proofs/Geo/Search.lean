import FlightRule.Proofs.Geo.Ends

/-!
# The search for the largest window

A scope between two items or inside one is searched for from the longest windows to the shortest
ones.  What the search finds is the longest window that meets the condition of the scope, and of
several the earliest (`Window.IsLargest`).  A scope from an item or to one is found by a single scan
of the journey, with the same result.  A point that the window has to pass never leads to another
window (`window_isLargest`).
-/

namespace FlightRule

/-- In a list that stands in order, the first item that passes a test precedes all others. -/
theorem Ordered.eq_or_rel_of_find?_eq_some
    {α : Type}
    {rel : α → α → Prop}
    {test : α → Bool}
    {items : List α}
    {item other : α}
    (ordered : items.Pairwise rel)
    (found : items.find? test = some item)
    (listed : other ∈ items)
    (passes : test other = true) :
    other = item ∨ rel item other := by
  obtain ⟨_, before, behind, rfl, noneBefore⟩ := List.find?_eq_some_iff_append.1 found
  rcases List.mem_append.1 listed with inFront | notInFront
  · simpa [passes] using noneBefore other inFront
  · rcases List.mem_cons.1 notInFront with same | inBack
    · exact .inl same
    · exact .inr ((List.pairwise_cons.1 (List.pairwise_append.1 ordered).2.1).1 other inBack)

namespace Window

/-- The window has a segment and stays inside a journey of `count` segments. -/
def Inside (window : Window) (count : Nat) : Prop :=
  window.start < window.stop ∧ window.stop ≤ count

/-- The number of segments of the window. -/
def length (window : Window) : Nat :=
  window.stop - window.start

/--
The longest window inside a journey of `count` segments that meets a condition, and of several the
earliest; none if there is no such window.
-/
def IsLargest (count : Nat) (condition : Window → Prop) : Option Window → Prop
  | none => ∀ window, window.Inside count → ¬condition window
  | some window =>
      (window.Inside count ∧ condition window) ∧
        ∀ other, other.Inside count → condition other →
          other.length ≤ window.length ∧
            (other.length = window.length → window.start ≤ other.start)

variable
  {count : Nat}
  {condition : Window → Prop}
  {left right : Option Window}
  {window other : Window}

theorem eq_of_start_of_length
    (nonempty : window.start < window.stop)
    (otherNonempty : other.start < other.stop)
    (sameStart : window.start = other.start)
    (sameLength : window.length = other.length) :
    window = other := by
  obtain ⟨start, stop⟩ := window
  obtain ⟨otherStart, otherStop⟩ := other
  simp only [length, Window.mk.injEq] at *
  omega

/-- There is only one largest window. -/
theorem IsLargest.unique
    (leftLargest : IsLargest count condition left)
    (rightLargest : IsLargest count condition right) :
    left = right := by
  cases left with
  | none =>
      cases right with
      | none => rfl
      | some other => exact absurd rightLargest.1.2 (leftLargest other rightLargest.1.1)
  | some window =>
      cases right with
      | none => exact absurd leftLargest.1.2 (rightLargest window leftLargest.1.1)
      | some other =>
          obtain ⟨⟨inside, met⟩, noneBetter⟩ := leftLargest
          obtain ⟨⟨otherInside, otherMet⟩, noneBetterThanOther⟩ := rightLargest
          obtain ⟨notLonger, notEarlier⟩ := noneBetter other otherInside otherMet
          obtain ⟨otherNotLonger, otherNotEarlier⟩ := noneBetterThanOther window inside met
          have sameLength : other.length = window.length :=
            Nat.le_antisymm notLonger otherNotLonger
          have sameStart : window.start = other.start :=
            Nat.le_antisymm (notEarlier sameLength) (otherNotEarlier sameLength.symm)
          rw [eq_of_start_of_length inside.1 otherInside.1 sameStart sameLength.symm]

/-! ## The order of the search -/

/-- The window comes first in the search: it is longer, or as long and earlier. -/
def Precedes (window other : Window) : Prop :=
  other.length < window.length ∨
    other.length = window.length ∧ window.start < other.start

/--
The candidates are listed in the order of the search: windows of one length from the left, and the
lengths downwards.
-/
theorem pairwise_candidates (count : Nat) : (candidates count).Pairwise Precedes := by
  rw [candidates, List.pairwise_flatMap]
  constructor
  · intro extra _
    rw [List.pairwise_map]
    refine List.pairwise_lt_range.imp fun {start later} earlier => .inr ⟨?_, earlier⟩
    simp only [length]
    omega
  · rw [List.pairwise_reverse]
    refine List.pairwise_lt_range.imp fun {extra longer} shorter => ?_
    intro window listed other otherListed
    obtain ⟨start, _, rfl⟩ := List.mem_map.1 listed
    obtain ⟨otherStart, _, rfl⟩ := List.mem_map.1 otherListed
    left
    simp only [length]
    omega

/-- The search finds the largest window that meets the condition it tests. -/
theorem isLargest_largest
    {test : Window → Bool}
    (tests : ∀ window, window.Inside count → (test window = true ↔ condition window)) :
    IsLargest count condition (largest count test) := by
  cases found : largest count test with
  | none =>
      intro window inside met
      exact List.find?_eq_none.1 found window (mem_candidates.2 inside)
        ((tests window inside).2 met)
  | some window =>
      have inside := mem_candidates.1 (List.mem_of_find?_eq_some found)
      refine ⟨⟨inside, (tests window inside).1 (List.find?_some found)⟩, ?_⟩
      intro other otherInside met
      rcases Ordered.eq_or_rel_of_find?_eq_some (pairwise_candidates count) found
        (mem_candidates.2 otherInside) ((tests other otherInside).2 met) with
        rfl | shorter | ⟨sameLength, earlier⟩
      · exact ⟨Nat.le_refl _, fun _ => Nat.le_refl _⟩
      · exact ⟨Nat.le_of_lt shorter, fun sameLength => by omega⟩
      · exact ⟨Nat.le_of_eq sameLength, fun _ => Nat.le_of_lt earlier⟩

end Window

/-! ## Points -/

/--
The place of a point: a point before the last is the origin of the segment with its number, and the
last one is the destination of the last segment.
-/
inductive StandsAt (segments : List Segment) : Nat → Location → Prop where
  | origin {point : Nat} {segment : Segment} (present : segments[point]? = some segment) :
      StandsAt segments point segment.origin
  | destination {segment : Segment} (last : segments.getLast? = some segment) :
      StandsAt segments segments.length segment.destination

/-- The place of a point is the one that is looked up for it. -/
theorem placeAt_eq_some_iff_standsAt
    {segments : List Segment}
    {point : Nat}
    {place : Location} :
    placeAt segments point = some place ↔ StandsAt segments point place := by
  constructor
  · intro found
    unfold placeAt at found
    split at found
    next segment present =>
      obtain rfl := Option.some.inj found
      exact .origin present
    next absent =>
      obtain ⟨segment, before, rfl⟩ := Option.map_eq_some_iff.1 found
      have bounded := List.getElem?_eq_none_iff.1 absent
      have inside := (List.getElem?_eq_some_iff.1 before).1
      obtain rfl : point = segments.length := by omega
      exact .destination (List.getLast?_eq_getElem?.trans before)
  · rintro (present | last)
    · simp [placeAt, present]
    · simp [placeAt, ← List.getLast?_eq_getElem?, last]

/-- An item matches at a point: its boundary admits the point and its matcher the place. -/
structure GeoPoint.MatchesPoint
    (geoPoint : GeoPoint)
    (segments : List Segment)
    (point : Nat) : Prop where
  admits_first : point = 0 → geoPoint.boundary.origin = true
  admits_last : 0 < point → point = segments.length → geoPoint.boundary.destination = true
  admits_inner : 0 < point → point < segments.length → geoPoint.boundary.intermediate = true
  accepts_place : ∃ place, StandsAt segments point place ∧ geoPoint.matcher.accepts place = true

/-- The test of a point decides whether an item matches there. -/
theorem GeoPoint.matchesAt_iff_matchesPoint
    {geoPoint : GeoPoint}
    {segments : List Segment}
    {point : Nat} :
    geoPoint.matchesAt segments point = true ↔ geoPoint.MatchesPoint segments point := by
  simp only [matchesAt, Bool.and_eq_true, Option.any_eq_true, placeAt_eq_some_iff_standsAt]
  constructor
  · rintro ⟨allowed, accepted⟩
    unfold allowedAt at allowed
    refine ⟨fun first => ?_, fun notFirst last => ?_, fun notFirst notLast => ?_, accepted⟩
    · simpa [first] using allowed
    · simpa [Nat.ne_of_gt notFirst, ← last] using allowed
    · simpa [Nat.ne_of_gt notFirst, Nat.ne_of_lt notLast] using allowed
  · rintro ⟨first, last, inner, place, stands, accepted⟩
    refine ⟨?_, place, stands, accepted⟩
    have bounded : point ≤ segments.length := by
      cases stands with
      | origin present => exact Nat.le_of_lt (List.getElem?_eq_some_iff.1 present).1
      | destination => exact Nat.le_refl _
    unfold allowedAt
    split
    next isFirst => exact first isFirst
    next notFirst =>
      split
      next isLast => exact last (Nat.pos_of_ne_zero notFirst) isLast
      next notLast => exact inner (Nat.pos_of_ne_zero notFirst) (by omega)

/-! ## The condition of each form -/

/-- The window leads from one of two items to the other one. -/
def GeoPoint.Connects
    (first second : GeoPoint)
    (segments : List Segment)
    (window : Window) : Prop :=
  (first.MatchesPoint segments window.start ∧ second.MatchesPoint segments window.stop) ∨
    (second.MatchesPoint segments window.start ∧ first.MatchesPoint segments window.stop)

/-- All points of the window, its two ends included, are in the item. -/
def GeoPoint.Encloses (zone : GeoPoint) (segments : List Segment) (window : Window) : Prop :=
  ∀ point, window.start ≤ point → point ≤ window.stop → zone.MatchesPoint segments point

namespace GeoScope

variable
  (hidden : HiddenStops)
  (segments : List Segment)

/-- The window between two points is the largest that connects them. -/
theorem isLargest_between (first second : GeoPoint) :
    Window.IsLargest segments.length (first.Connects second segments)
      (formWindow hidden segments (.between first second)) := by
  refine Window.isLargest_largest fun window _ => ?_
  simp only [Bool.or_eq_true, Bool.and_eq_true, GeoPoint.matchesAt_iff_matchesPoint,
    GeoPoint.Connects]

/-- The window within a zone is the largest that the zone encloses. -/
theorem isLargest_within (zone : GeoPoint) :
    Window.IsLargest segments.length (zone.Encloses segments)
      (formWindow hidden segments (.within zone)) := by
  refine Window.isLargest_largest fun window inside => ?_
  have ordered := inside.1
  simp only [List.all_eq_true, Window.points, List.mem_range'_1,
    GeoPoint.matchesAt_iff_matchesPoint, GeoPoint.Encloses]
  constructor
  · intro enclosed point behind before
    exact enclosed point (by omega)
  · intro enclosed point between
    exact enclosed point (by omega) (by omega)

/-- The first departure from an item starts the longest window that departs from it. -/
theorem isLargest_startingAt (point : GeoPoint) :
    Window.IsLargest segments.length (fun window => point.MatchesPoint segments window.start)
      (formWindow hidden segments (.startingAt point)) := by
  simp only [← GeoPoint.matchesAt_iff_matchesPoint, formWindow]
  cases found : (List.range segments.length).find? (point.matchesAt segments) with
  | none =>
      rintro window ⟨nonempty, bounded⟩ departs
      exact List.find?_eq_none.1 found window.start (List.mem_range.2 (by omega)) departs
  | some start =>
      have inside : start < segments.length := by simpa using List.mem_of_find?_eq_some found
      refine ⟨⟨⟨inside, Nat.le_refl _⟩, List.find?_some found⟩, ?_⟩
      rintro other ⟨nonempty, bounded⟩ departs
      have earliest : other.start = start ∨ start < other.start :=
        Ordered.eq_or_rel_of_find?_eq_some List.pairwise_lt_range found
          (List.mem_range.2 (by omega)) departs
      simp only [Window.length]
      omega

/-- The last arrival at an item ends the longest window that arrives at it. -/
theorem isLargest_endingAt (point : GeoPoint) :
    Window.IsLargest segments.length (fun window => point.MatchesPoint segments window.stop)
      (formWindow hidden segments (.endingAt point)) := by
  simp only [← GeoPoint.matchesAt_iff_matchesPoint, formWindow]
  cases found : (List.range segments.length).reverse.find? fun last =>
      point.matchesAt segments (last + 1) with
  | none =>
      rintro window ⟨nonempty, bounded⟩ arrives
      obtain ⟨last, stop_eq⟩ := Nat.exists_eq_add_one.2 (Nat.zero_lt_of_lt nonempty)
      rw [stop_eq] at bounded arrives
      exact List.find?_eq_none.1 found last (by simpa using Nat.lt_of_succ_le bounded) arrives
  | some last =>
      have inside : last < segments.length := by simpa using List.mem_of_find?_eq_some found
      refine ⟨⟨⟨Nat.succ_pos last, inside⟩, by simpa using List.find?_some found⟩, ?_⟩
      rintro other ⟨nonempty, bounded⟩ arrives
      obtain ⟨otherLast, stop_eq⟩ := Nat.exists_eq_add_one.2 (Nat.zero_lt_of_lt nonempty)
      rw [stop_eq] at bounded arrives
      have latest : otherLast = last ∨ otherLast < last :=
        Ordered.eq_or_rel_of_find?_eq_some (List.pairwise_reverse.2 List.pairwise_lt_range) found
          (by simpa using Nat.lt_of_succ_le bounded) arrives
      simp only [Window.length]
      omega

end GeoScope

/--
Without a point to pass, the window between two items is the longest one that leads from one of
them to the other, and the window inside an item the longest one with all points in it, the earliest
of several.  The window from an item and the window to one are those that the same search finds for
the condition on that end alone.  A point to pass leaves the window as it is, or there is none.
-/
theorem window_isLargest (scope : GeoScope) (segments : List Segment) :
    (∀ first second,
      Window.IsLargest segments.length (first.Connects second segments)
        ({ scope with form := .between first second, via := none }.window segments)) ∧
    (∀ zone,
      Window.IsLargest segments.length (zone.Encloses segments)
        ({ scope with form := .within zone, via := none }.window segments)) ∧
    (∀ point,
      let window? := { scope with form := .startingAt point, via := none }.window segments
      Window.IsLargest segments.length (fun window => point.MatchesPoint segments window.start)
          window? ∧
        window? = Window.largest segments.length fun window =>
          point.matchesAt segments window.start) ∧
    (∀ point,
      let window? := { scope with form := .endingAt point, via := none }.window segments
      Window.IsLargest segments.length (fun window => point.MatchesPoint segments window.stop)
          window? ∧
        window? = Window.largest segments.length fun window =>
          point.matchesAt segments window.stop) ∧
    ∀ via,
      { scope with via := some via }.window segments = none ∨
        { scope with via := some via }.window segments =
          { scope with via := none }.window segments := by
  have byForm (form : ScopeForm) :
      { scope with form, via := none }.window segments =
        GeoScope.formWindow scope.hidden segments form :=
    GeoScope.window_of_via_eq_none rfl
  refine ⟨fun first second => ?_, fun zone => ?_, fun point => ?_, fun point => ?_, fun via => ?_⟩
  · rw [byForm]
    exact GeoScope.isLargest_between scope.hidden segments first second
  · rw [byForm]
    exact GeoScope.isLargest_within scope.hidden segments zone
  · rw [byForm]
    have scanned := GeoScope.isLargest_startingAt scope.hidden segments point
    exact ⟨scanned, scanned.unique
      (Window.isLargest_largest fun _ _ => GeoPoint.matchesAt_iff_matchesPoint)⟩
  · rw [byForm]
    have scanned := GeoScope.isLargest_endingAt scope.hidden segments point
    exact ⟨scanned, scanned.unique
      (Window.isLargest_largest fun _ _ => GeoPoint.matchesAt_iff_matchesPoint)⟩
  · cases passed : { scope with via := some via }.window segments with
    | none => exact .inl rfl
    | some window =>
        right
        rw [byForm scope.form]
        exact (GeoScope.formWindow_of_window passed).symm

end FlightRule
