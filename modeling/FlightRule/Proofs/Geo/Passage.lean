import FlightRule.Proofs.Geo.Ends

/-!
# Windows by way of places

A scope by way of some points has the smallest window around the segments that touch one of them:
those that arrive at a connection that matches, those that depart from it, and those with a hidden
stop that matches (`GeoScope.Touched`).  A window passes a point exactly if it has all that touches
the point in one place (`GeoScope.passes_iff`).  So there is a window by way of some points where
the whole journey passes one of them, and that window passes one of them itself; connections and
hidden stops contribute to it independently of each other (`window_through_isHull`).
-/

namespace FlightRule
namespace Window

/-! ## Hulls -/

/-- The segment at a position is in the window. -/
def Contains (window : Window) (position : Nat) : Prop :=
  window.start ≤ position ∧ position < window.stop

/-- The window is a part of another one. -/
def LiesIn (window other : Window) : Prop :=
  other.start ≤ window.start ∧ window.stop ≤ other.stop

/--
The smallest window that contains all positions of a kind; none if there is no such position.
-/
def IsHull (positions : Nat → Prop) : Option Window → Prop
  | none => ∀ position, ¬positions position
  | some window =>
      (∃ position, positions position) ∧
        (∀ position, positions position → window.Contains position) ∧
          ∀ other : Window, (∀ position, positions position → other.Contains position) →
            window.LiesIn other

variable
  {positions : Nat → Prop}
  {window? : Option Window}
  {window left right other : Window}
  {windows others : List Window}

/-- A window with a segment lies in all windows that contain its segments. -/
theorem liesIn_iff (nonempty : window.start < window.stop) :
    window.LiesIn other ↔ ∀ position, window.Contains position → other.Contains position := by
  unfold LiesIn Contains
  constructor
  · rintro ⟨starts, stops⟩ position ⟨behind, before⟩
    exact ⟨Nat.le_trans starts behind, Nat.lt_of_lt_of_le before stops⟩
  · intro contained
    have first := contained window.start ⟨Nat.le_refl _, nonempty⟩
    have last := contained (window.stop - 1) (by omega)
    omega

/-- A window lies around two others exactly when it lies around their join. -/
theorem join_liesIn_iff :
    (left.join right).LiesIn other ↔ left.LiesIn other ∧ right.LiesIn other := by
  simp only [LiesIn, join]
  omega

/-- A window lies around all parts exactly when it lies around their join. -/
theorem foldl_join_liesIn_iff :
    (windows.foldl join window).LiesIn other ↔
      window.LiesIn other ∧ ∀ part ∈ windows, part.LiesIn other := by
  induction windows generalizing window with
  | nil => simp
  | cons next windows inductionHypothesis =>
      rw [List.foldl_cons, inductionHypothesis, join_liesIn_iff, List.forall_mem_cons, and_assoc]

/-- The hull lies in the windows in which all windows of the list lie. -/
theorem liesIn_of_hull
    (found : hull windows = some window) :
    window.LiesIn other ↔ ∀ part ∈ windows, part.LiesIn other := by
  cases windows with
  | nil => cases found
  | cons first windows =>
      cases found
      rw [foldl_join_liesIn_iff, List.forall_mem_cons]

theorem hull_eq_none_iff : hull windows = none ↔ windows = [] := by
  cases windows <;> simp [hull]

/-- The hull of windows with segments is the smallest window around those segments. -/
theorem isHull_hull (nonempty : ∀ part ∈ windows, part.start < part.stop) :
    IsHull (fun position => ∃ part ∈ windows, part.Contains position) (hull windows) := by
  cases found : hull windows with
  | none =>
      rw [hull_eq_none_iff.1 found]
      rintro position ⟨part, member, _⟩
      cases member
  | some window =>
      have inHull : ∀ part ∈ windows, part.LiesIn window :=
        (liesIn_of_hull found).1 ⟨Nat.le_refl _, Nat.le_refl _⟩
      refine ⟨?_, ?_, ?_⟩
      · have someWindow : windows ≠ [] := fun none => by simp [none, hull] at found
        obtain ⟨part, member⟩ := List.exists_mem_of_ne_nil windows someWindow
        exact ⟨part.start, part, member, Nat.le_refl _, nonempty part member⟩
      · rintro position ⟨part, member, contained⟩
        exact (liesIn_iff (nonempty part member)).1 (inHull part member) position contained
      · intro other contains
        rw [liesIn_of_hull found]
        intro part member
        exact (liesIn_iff (nonempty part member)).2 fun position contained =>
          contains position ⟨part, member, contained⟩

theorem IsHull.congr
    {otherPositions : Nat → Prop}
    (same : ∀ position, positions position ↔ otherPositions position)
    (isHull : IsHull positions window?) :
    IsHull otherPositions window? := by
  obtain rfl : positions = otherPositions := funext fun position => propext (same position)
  exact isHull

theorem IsHull.eq_none_iff (isHull : IsHull positions window?) :
    window? = none ↔ ∀ position, ¬positions position := by
  cases window? with
  | none => exact iff_of_true rfl isHull
  | some window =>
      obtain ⟨position, found⟩ := isHull.1
      exact iff_of_false nofun fun none => none position found

instance : Std.Associative join where
  assoc first second third := by
    simp only [join, Window.mk.injEq]
    omega

/-- The hull of two lists is that of their hulls. -/
theorem hull_append (windows others : List Window) :
    hull (windows ++ others) = hull ((hull windows).toList ++ (hull others).toList) := by
  cases windows with
  | nil => cases others <;> rfl
  | cons first windows =>
      cases others with
      | nil => simp [hull]
      | cons second others => simp [hull, List.foldl_assoc]

/-- A hull has a segment. -/
theorem IsHull.nonempty (isHull : IsHull positions (some window)) :
    window.start < window.stop := by
  obtain ⟨position, found⟩ := isHull.1
  obtain ⟨behind, before⟩ := isHull.2.1 position found
  omega

end Window

/-! ## What touches a point -/

namespace GeoScope

/-- One of the points matches a place on the way. -/
def StopsAt (points : List GeoPoint) (place : Location) : Prop :=
  ∃ point ∈ points, point.boundary.intermediate = true ∧ point.matcher.accepts place = true

/-- The segment at a position touches one of some points, as far as stops of its kind count. -/
inductive Touched
    (hidden : HiddenStops)
    (points : List GeoPoint)
    (segments : List Segment) : Nat → Prop where
  /-- The segment arrives at a connection that matches. -/
  | arrival {position : Nat} {next : Segment}
      (counts : hidden ≠ .yes)
      (present : segments[position + 1]? = some next)
      (stops : StopsAt points next.origin) :
      Touched hidden points segments position
  /-- The segment departs from a connection that matches. -/
  | departure {position : Nat} {segment : Segment}
      (counts : hidden ≠ .yes)
      (connects : 1 ≤ position)
      (present : segments[position]? = some segment)
      (stops : StopsAt points segment.origin) :
      Touched hidden points segments position
  /-- The segment has a hidden stop that matches. -/
  | hiddenStop {position : Nat} {segment : Segment} {stop : Location}
      (counts : hidden ≠ .no)
      (present : segments[position]? = some segment)
      (member : stop ∈ segment.hiddenStops)
      (stops : StopsAt points stop) :
      Touched hidden points segments position

variable
  {hidden : HiddenStops}
  {points : List GeoPoint}
  {segments : List Segment}
  {window part : Window}
  {via : GeoPoint}

theorem countsConnections_iff : hidden.countsConnections = true ↔ hidden ≠ .yes := by
  cases hidden <;> decide

theorem countsHiddenStops_iff : hidden.countsHiddenStops = true ↔ hidden ≠ .no := by
  cases hidden <;> decide

/-- Between two segments an item matches where it matches the departure of the second one. -/
theorem matchesAt_connection_iff
    {position : Nat}
    (connects : 1 ≤ position)
    (inside : position < segments.length) :
    via.matchesAt segments position = true ↔
      via.boundary.intermediate = true ∧
        ∃ segment ∈ segments[position]?, via.matcher.accepts segment.origin = true := by
  rw [GeoPoint.matchesAt_iff_matchesDeparture inside, GeoPoint.MatchesDeparture,
    GeoPoint.allowedAt, if_neg (by omega), if_neg (by omega)]

/-- A connection that is touched brings the segments on both sides of it. -/
theorem mem_touchedConnections_iff :
    part ∈ touchedConnections points segments ↔
      ∃ position, (1 ≤ position ∧ position < segments.length) ∧
        (∃ point ∈ points, point.matchesAt segments position = true) ∧
          part = ⟨position - 1, position + 1⟩ := by
  simp only [touchedConnections, List.mem_map, List.mem_filter, List.mem_range'_1, List.any_eq_true]
  constructor
  · rintro ⟨position, ⟨between, matched⟩, rfl⟩
    exact ⟨position, by omega, matched, rfl⟩
  · rintro ⟨position, between, matched, rfl⟩
    exact ⟨position, ⟨by omega, matched⟩, rfl⟩

/-- A hidden stop that is touched brings its segment. -/
theorem mem_touchedHiddenStops_iff :
    part ∈ touchedHiddenStops points segments ↔
      ∃ position segment, segments[position]? = some segment ∧
        (∃ stop ∈ segment.hiddenStops, ∃ point ∈ points, point.matchesHidden stop = true) ∧
          part = ⟨position, position + 1⟩ := by
  simp only [touchedHiddenStops, List.mem_map, List.mem_filter, Prod.exists,
    List.mem_zipIdx_iff_getElem?, List.any_eq_true]
  constructor
  · rintro ⟨segment, position, ⟨present, matched⟩, rfl⟩
    exact ⟨position, segment, present, matched, rfl⟩
  · rintro ⟨position, segment, present, matched, rfl⟩
    exact ⟨segment, position, ⟨present, matched⟩, rfl⟩

theorem mem_touched_iff :
    part ∈ touched hidden points segments ↔
      (hidden ≠ .yes ∧ part ∈ touchedConnections points segments) ∨
        (hidden ≠ .no ∧ part ∈ touchedHiddenStops points segments) := by
  rw [touched, List.mem_append, ← countsConnections_iff, ← countsHiddenStops_iff]
  cases hidden.countsConnections <;> cases hidden.countsHiddenStops <;> simp

/-- What touches a point has a segment and stays inside the journey. -/
theorem inside_of_mem_touched (member : part ∈ touched hidden points segments) :
    part.start < part.stop ∧ part.stop ≤ segments.length := by
  rcases mem_touched_iff.1 member with ⟨_, connection⟩ | ⟨_, hiddenStop⟩
  · obtain ⟨position, between, _, rfl⟩ := mem_touchedConnections_iff.1 connection
    simp only
    omega
  · obtain ⟨position, segment, present, _, rfl⟩ := mem_touchedHiddenStops_iff.1 hiddenStop
    have inside := (List.getElem?_eq_some_iff.1 present).1
    simp only
    omega

/-- The windows that touch some points are made up of the segments that do. -/
theorem exists_mem_touched_contains_iff {position : Nat} :
    (∃ part ∈ touched hidden points segments, part.Contains position) ↔
      Touched hidden points segments position := by
  constructor
  · rintro ⟨part, member, behind, before⟩
    rcases mem_touched_iff.1 member with ⟨counts, connection⟩ | ⟨counts, hiddenStop⟩
    · obtain ⟨connecting, ⟨connects, inside⟩, ⟨point, named, matched⟩, rfl⟩ :=
        mem_touchedConnections_iff.1 connection
      obtain ⟨onTheWay, segment, present, accepted⟩ :=
        (matchesAt_connection_iff connects inside).1 matched
      have stops : StopsAt points segment.origin := ⟨point, named, onTheWay, accepted⟩
      obtain rfl | rfl : connecting = position + 1 ∨ connecting = position := by
        simp only at behind before
        omega
      · exact .arrival counts present stops
      · exact .departure counts connects present stops
    · obtain ⟨stopping, segment, present, ⟨stop, stopMember, point, named, matched⟩, rfl⟩ :=
        mem_touchedHiddenStops_iff.1 hiddenStop
      obtain rfl : stopping = position := by
        simp only at behind before
        omega
      exact .hiddenStop counts present stopMember
        ⟨point, named, by simpa [GeoPoint.matchesHidden] using matched⟩
  · have connection
        {connecting : Nat}
        {segment : Segment}
        (counts : hidden ≠ .yes)
        (connects : 1 ≤ connecting)
        (present : segments[connecting]? = some segment)
        (stops : StopsAt points segment.origin) :
        ⟨connecting - 1, connecting + 1⟩ ∈ touched hidden points segments := by
      have inside := (List.getElem?_eq_some_iff.1 present).1
      obtain ⟨point, named, onTheWay, accepted⟩ := stops
      exact mem_touched_iff.2 (.inl ⟨counts, mem_touchedConnections_iff.2
        ⟨connecting, ⟨connects, inside⟩, ⟨point, named,
          (matchesAt_connection_iff connects inside).2 ⟨onTheWay, segment, present, accepted⟩⟩,
          rfl⟩⟩)
    intro isTouched
    cases isTouched with
    | arrival counts present stops =>
        refine ⟨_, connection counts (Nat.le_add_left 1 position) present stops, ?_⟩
        simp only [Window.Contains]
        omega
    | departure counts connects present stops =>
        refine ⟨_, connection counts connects present stops, ?_⟩
        simp only [Window.Contains]
        omega
    | hiddenStop counts present member stops =>
        obtain ⟨point, named, onTheWay, accepted⟩ := stops
        refine ⟨⟨position, position + 1⟩, ?_, by simp [Window.Contains]⟩
        exact mem_touched_iff.2 (.inr ⟨counts, mem_touchedHiddenStops_iff.2
          ⟨position, _, present, ⟨_, member, point, named,
            by simp [GeoPoint.matchesHidden, onTheWay, accepted]⟩, rfl⟩⟩)

/-- The hull of what is touched is a hull of the segments touched. -/
theorem isHull_hull_touched :
    Window.IsHull (Touched hidden points segments)
      (Window.hull (touched hidden points segments)) :=
  (Window.isHull_hull fun _ member => (inside_of_mem_touched member).1).congr
    fun _ => exists_mem_touched_contains_iff

/-- The hull of what touches some points has a segment and stays inside the journey. -/
theorem inside_of_hull_touched
    (found : Window.hull (touched hidden points segments) = some window) :
    window.start < window.stop ∧ window.stop ≤ segments.length := by
  have isHull : Window.IsHull (Touched hidden points segments) (some window) := by
    rw [← found]
    exact isHull_hull_touched
  have inJourney : window.LiesIn ⟨0, segments.length⟩ :=
    (Window.liesIn_of_hull found).2 fun part member =>
      ⟨Nat.zero_le _, (inside_of_mem_touched member).2⟩
  exact ⟨isHull.nonempty, inJourney.2⟩

/-- What touches some points touches one of them. -/
theorem mem_touched_iff_exists_point :
    part ∈ touched hidden points segments ↔
      ∃ point ∈ points, part ∈ touched hidden [point] segments := by
  simp only [mem_touched_iff, mem_touchedConnections_iff, mem_touchedHiddenStops_iff,
    List.mem_singleton, exists_eq_left]
  grind

/-! ## Passing a point -/

theorem mem_slice_iff {segment : Segment} :
    segment ∈ window.slice segments ↔
      ∃ position, window.Contains position ∧ segments[position]? = some segment := by
  simp only [Window.slice, List.mem_iff_getElem?, List.getElem?_drop, List.getElem?_take,
    Option.ite_none_right_eq_some, Window.Contains]
  constructor
  · rintro ⟨offset, before, present⟩
    exact ⟨window.start + offset, ⟨Nat.le_add_right _ _, before⟩, present⟩
  · rintro ⟨position, ⟨behind, before⟩, present⟩
    obtain ⟨offset, rfl⟩ := Nat.exists_eq_add_of_le behind
    exact ⟨offset, before, present⟩

/-- A window passes a point if something that touches the point lies in the window. -/
theorem passes_iff (bounded : window.stop ≤ segments.length) :
    passes hidden via segments window = true ↔
      ∃ part ∈ touched hidden [via] segments, part.LiesIn window := by
  have atConnection :
      window.innerPoints.any (via.matchesAt segments) = true ↔
        ∃ part ∈ touchedConnections [via] segments, part.LiesIn window := by
    simp only [Window.innerPoints, List.any_eq_true, List.mem_range'_1, mem_touchedConnections_iff,
      List.mem_singleton, exists_eq_left]
    constructor
    · rintro ⟨point, between, matched⟩
      refine ⟨_, ⟨point, by omega, matched, rfl⟩, ?_⟩
      simp only [Window.LiesIn]
      omega
    · rintro ⟨_, ⟨point, between, matched, rfl⟩, starts, stops⟩
      exact ⟨point, by simp only at starts stops; omega, matched⟩
  have atHiddenStop :
      ((window.slice segments).any fun segment => segment.hiddenStops.any via.matchesHidden) =
          true ↔
        ∃ part ∈ touchedHiddenStops [via] segments, part.LiesIn window := by
    simp only [List.any_eq_true, mem_slice_iff, mem_touchedHiddenStops_iff, List.mem_singleton,
      exists_eq_left]
    constructor
    · rintro ⟨segment, ⟨position, contained, present⟩, matched⟩
      exact ⟨_, ⟨position, segment, present, matched, rfl⟩, contained⟩
    · rintro ⟨_, ⟨position, segment, present, matched, rfl⟩, contained⟩
      exact ⟨segment, ⟨position, contained, present⟩, matched⟩
  simp only [passes, Bool.or_eq_true, Bool.and_eq_true, countsConnections_iff,
    countsHiddenStops_iff, atConnection, atHiddenStop, mem_touched_iff, or_and_right, exists_or,
    and_assoc, exists_and_left]

/-- A window passes one of some points if something that touches them lies in the window. -/
theorem exists_passes_iff (bounded : window.stop ≤ segments.length) :
    (∃ point ∈ points, passes hidden point segments window = true) ↔
      ∃ part ∈ touched hidden points segments, part.LiesIn window := by
  constructor
  · rintro ⟨point, named, passed⟩
    obtain ⟨part, member, lies⟩ := (passes_iff bounded).1 passed
    exact ⟨part, mem_touched_iff_exists_point.2 ⟨point, named, member⟩, lies⟩
  · rintro ⟨part, member, lies⟩
    obtain ⟨point, named, touches⟩ := mem_touched_iff_exists_point.1 member
    exact ⟨point, named, (passes_iff bounded).2 ⟨part, touches, lies⟩⟩

/-! ## The window by way of some points -/

/-- The scope by way of some points. -/
def byWayOf
    (points : List GeoPoint)
    (hidden : HiddenStops)
    (polarity : ViaPolarity) : GeoScope where
  form := .through points
  hidden
  polarity

/-- The scope of the whole journey that has to pass a point. -/
def wholePassing
    (via : GeoPoint)
    (hidden : HiddenStops)
    (polarity : ViaPolarity) : GeoScope where
  form := .whole
  via := some via
  hidden
  polarity

variable {polarity : ViaPolarity}

/-- The window by way of some points is the hull of what they touch. -/
theorem window_byWayOf :
    (byWayOf points hidden polarity).window segments =
      Window.hull (touched hidden points segments) :=
  window_of_via_eq_none rfl

/-- A whole journey with a via-item has a window when it passes there. -/
theorem isSome_window_wholePassing :
    ((wholePassing via hidden polarity).window segments).isSome = true ↔
      passes hidden via segments ⟨0, segments.length⟩ = true := by
  simp [window, wholePassing, formWindow, Option.isSome_filter]

/-- The window by way of some points is the smallest one around the segments that touch them. -/
theorem isHull_window_byWayOf :
    Window.IsHull (Touched hidden points segments)
      ((byWayOf points hidden polarity).window segments) := by
  rw [window_byWayOf]
  exact isHull_hull_touched

/-- There is a window by way of some points where the whole journey passes one of them. -/
theorem isSome_window_byWayOf_iff :
    ((byWayOf points hidden polarity).window segments).isSome = true ↔
      ∃ point ∈ points, passes hidden point segments ⟨0, segments.length⟩ = true := by
  rw [exists_passes_iff (Nat.le_refl _), window_byWayOf, Option.isSome_iff_ne_none, Ne,
    Window.hull_eq_none_iff]
  constructor
  · intro touches
    obtain ⟨part, member⟩ := List.exists_mem_of_ne_nil _ touches
    exact ⟨part, member, Nat.zero_le _, (inside_of_mem_touched member).2⟩
  · rintro ⟨part, member, _⟩
    exact List.ne_nil_of_mem member

/-- The window by way of some points passes one of them. -/
theorem exists_passes_of_window_byWayOf
    (found : (byWayOf points hidden polarity).window segments = some window) :
    ∃ point ∈ points, passes hidden point segments window = true := by
  rw [window_byWayOf] at found
  rw [exists_passes_iff (inside_of_hull_touched found).2]
  have touches : touched hidden points segments ≠ [] := by
    rw [Ne, ← Window.hull_eq_none_iff, found]
    nofun
  obtain ⟨part, member⟩ := List.exists_mem_of_ne_nil _ touches
  exact ⟨part, member, (Window.liesIn_of_hull found).1 ⟨Nat.le_refl _, Nat.le_refl _⟩ part member⟩

/-- The window by way of some points, where all stops count, is made up of those of either kind. -/
theorem isHull_window_byWayOf_blank :
    Window.IsHull
      (fun position =>
        ∃ part ∈ ((byWayOf points .yes polarity).window segments).toList ++
          ((byWayOf points .no polarity).window segments).toList, part.Contains position)
      ((byWayOf points .blank polarity).window segments) := by
  have nonempty (hidden : HiddenStops) :
      ∀ part ∈ ((byWayOf points hidden polarity).window segments).toList,
        part.start < part.stop := by
    intro part found
    rw [Option.mem_toList, window_byWayOf] at found
    exact (inside_of_hull_touched found).1
  have blank_eq :
      (byWayOf points .blank polarity).window segments =
        Window.hull (((byWayOf points .no polarity).window segments).toList ++
          ((byWayOf points .yes polarity).window segments).toList) := by
    have parts : touched .blank points segments =
        touched .no points segments ++ touched .yes points segments := by
      simp [touched, HiddenStops.countsConnections, HiddenStops.countsHiddenStops]
    rw [window_byWayOf, parts, Window.hull_append, window_byWayOf, window_byWayOf]
  rw [blank_eq]
  refine (Window.isHull_hull ?_).congr fun position => ?_
  · exact List.forall_mem_append.2 ⟨nonempty .no, nonempty .yes⟩
  · simp only [List.mem_append, or_comm]

end GeoScope

/--
The window by way of some points is the smallest one around all segments that touch them, and there
is none exactly if no segment does.  There is one exactly if the whole journey, made to pass one of
the points, has a window; and it passes one of the points itself.  Where all stops count, it is the
smallest window around what connections alone and hidden stops alone give.
-/
theorem window_through_isHull
    (points : List GeoPoint)
    (hidden : HiddenStops)
    (polarity : ViaPolarity)
    (segments : List Segment) :
    Window.IsHull (GeoScope.Touched hidden points segments)
      ((GeoScope.byWayOf points hidden polarity).window segments) ∧
    ((GeoScope.byWayOf points hidden polarity).window segments = none ↔
      ∀ position, ¬GeoScope.Touched hidden points segments position) ∧
    (((GeoScope.byWayOf points hidden polarity).window segments).isSome = true ↔
      ∃ point ∈ points,
        ((GeoScope.wholePassing point hidden polarity).window segments).isSome = true) ∧
    (∀ window, (GeoScope.byWayOf points hidden polarity).window segments = some window →
      ∃ point ∈ points, GeoScope.passes hidden point segments window = true) ∧
    Window.IsHull
      (fun position =>
        ∃ part ∈ ((GeoScope.byWayOf points .yes polarity).window segments).toList ++
          ((GeoScope.byWayOf points .no polarity).window segments).toList, part.Contains position)
      ((GeoScope.byWayOf points .blank polarity).window segments) := by
  refine ⟨GeoScope.isHull_window_byWayOf, GeoScope.isHull_window_byWayOf.eq_none_iff, ?_, ?_, ?_⟩
  · simp only [GeoScope.isSome_window_wholePassing]
    exact GeoScope.isSome_window_byWayOf_iff
  · intro window found
    exact GeoScope.exists_passes_of_window_byWayOf found
  · exact GeoScope.isHull_window_byWayOf_blank

/-- Three flights by way of Atlanta and London, the last one with a stop in Frankfurt on its way. -/
def journeyWithStop : List Segment :=
  [.air "DL" 1 (.ofAirport "MIA" "US" "1") (.ofAirport "ATL" "US" "1"),
    .air "DL" 2 (.ofAirport "ATL" "US" "1") (.ofAirport "LON" "GB" "2"),
    (Segment.air "DL" 3 (.ofAirport "LON" "GB" "2") (.ofAirport "ZRH" "CH" "2")).addHiddenStop
      (.ofAirport "FRA" "DE" "2")]

/-- Atlanta and Frankfurt. -/
def atlantaAndFrankfurt : List GeoPoint :=
  [{ matcher := .airport "ATL" }, { matcher := .airport "FRA" }]

/-- The connection and the hidden stop together take up the whole journey. -/
theorem window_through_connection_and_stop :
    let windowOf (hidden : HiddenStops) :=
      (GeoScope.byWayOf atlantaAndFrankfurt hidden .blank).window journeyWithStop
    windowOf .no = some ⟨0, 2⟩ ∧ windowOf .yes = some ⟨2, 3⟩ ∧ windowOf .blank = some ⟨0, 3⟩ ∧
      ∃ point ∈ atlantaAndFrankfurt,
        GeoScope.passes .blank point journeyWithStop ⟨0, 3⟩ = true := by
  intro windowOf
  have found : windowOf .blank = some ⟨0, 3⟩ := by decide
  refine ⟨by decide, by decide, found, ?_⟩
  obtain ⟨_, _, _, passesOne, _⟩ :=
    window_through_isHull atlantaAndFrankfurt .blank .blank journeyWithStop
  exact passesOne _ found

end FlightRule
