import FlightRule.Proofs.Geo.Places
import FlightRule.Proofs.Rule.Agreement
import FlightRule.Rule.Compile

/-!
# Segments outside the window

A rule finds its window by the places of the journey, and it judges what is inside.  So segments
outside the window have an effect on its outcome through their places alone: whether they are flown,
by whom, with which flight, equipment and date makes no difference (`outcome_of_same_window`).
-/

namespace FlightRule

/--
Two itineraries that a rule cannot tell apart: they go in one direction by the same places, and they
are equal inside the rule's window, if there is one.
-/
structure CompiledRule.SeesSame (rule : CompiledRule) (itinerary other : Itinerary) : Prop where
  direction_eq : itinerary.direction = other.direction
  places_eq :
    itinerary.segments.map Segment.placesOnly = other.segments.map Segment.placesOnly
  inside_eq : ∀ window, rule.reach.window itinerary.segments = some window →
    ∀ position, window.start ≤ position → position < window.stop →
      itinerary.segments[position]? = other.segments[position]?

/-- A window cuts the same out of two lists that are equal at its positions. -/
theorem Window.slice_congr
    {α : Type}
    {window : Window}
    {items others : List α}
    (same : ∀ position, window.start ≤ position → position < window.stop →
      items[position]? = others[position]?) :
    window.slice items = window.slice others := by
  apply List.ext_getElem?
  intro offset
  rw [slice, slice, List.getElem?_drop, List.getElem?_drop, List.getElem?_take,
    List.getElem?_take]
  split
  next inside => exact same _ (Nat.le_add_right _ _) inside
  next => rfl

/-- A rule has one window on all journeys by the same places. -/
theorem Reach.window_of_same_places
    {segments others : List Segment}
    (reach : Reach)
    (places_eq : segments.map Segment.placesOnly = others.map Segment.placesOnly) :
    reach.window segments = reach.window others := by
  cases reach with
  | nowhere => rfl
  | within scope =>
      rw [window, window, ← scope.window_placesOnly segments, places_eq, scope.window_placesOnly]

/-- Journeys that look the same to a rule have the same outcome. -/
theorem CompiledRule.SeesSame.outcome_look
    {rule : CompiledRule}
    {itinerary other : Itinerary}
    (same : rule.SeesSame itinerary other)
    (requirement : Requirement)
    (context : Context)
    (opposite : List Segment) :
    (rule.look requirement context itinerary.segments opposite).outcome =
      (rule.look requirement context other.segments opposite).outcome := by
  have slice_eq (window : Window) (found : rule.reach.window itinerary.segments = some window) :
      window.slice itinerary.segments = window.slice other.segments :=
    Window.slice_congr (same.inside_eq window found)
  apply outcome_look_congr rfl (rule.reach.window_of_same_places same.places_eq)
  · intro window found
    rw [slice_eq window found]
  · intro window found _
    rw [slice_eq window found]

/--
Segments outside the window of a rule have an effect through their places alone.  On two itineraries
in one direction that have the same places, segment by segment, and are equal inside the window of
the rule, the window is the same and so is the outcome, on a single fare as well as on a usage in
whatever pricing unit, where only the usage that is asked about is exchanged.
-/
theorem outcome_of_same_window
    (rule : CompiledRule)
    (context : Context)
    (itinerary other : Itinerary)
    (same : rule.SeesSame itinerary other) :
    rule.reach.window itinerary.segments = rule.reach.window other.segments ∧
    rule.outcome context itinerary = rule.outcome context other ∧
    ∀ (unit : PricingUnit) (inbound : Bool),
      rule.outcomeInUnit context unit ⟨itinerary, inbound⟩ =
        rule.outcomeInUnit context unit ⟨other, inbound⟩ := by
  refine ⟨rule.reach.window_of_same_places same.places_eq, ?_, ?_⟩
  · apply CompiledRule.outcome_congr rfl
    · rw [same.direction_eq]
    · exact .self fun requirement _ => same.outcome_look requirement context []
  · intro unit inbound
    let corresponds (usage otherUsage : FareUsage) : Prop :=
      usage = otherUsage ∨ usage = ⟨itinerary, inbound⟩ ∧ otherUsage = ⟨other, inbound⟩
    apply CompiledRule.outcomeInUnit_congr corresponds rfl rfl
    · rintro usage otherUsage (rfl | ⟨rfl, rfl⟩) <;> rfl
    · rintro usage otherUsage (rfl | ⟨rfl, rfl⟩)
      · rfl
      · exact (rule.indicator context).checkUsage_congr same.direction_eq rfl
    · refine .self fun requirement _ => ?_
      rintro usage otherUsage (rfl | ⟨rfl, rfl⟩)
      · rfl
      · exact same.outcome_look requirement context _
    · exact List.forall₂_same.2 fun _ _ => .inl rfl
    · exact .inr ⟨rfl, rfl⟩

/-- Flights of one carrier have to be used between two places. -/
def carrierBetween : RuleRecord where
  vendor := "ATP"
  itemNo := 1
  application := .must
  slots := { first := .literal "DL" (-1) }
  geo := { use := .betweenAnd, betweenItem := 1, andItem := 2 }

/-- A transaction in which the two places are New York and Los Angeles. -/
def coastToCoast : Context where
  geography := {
    item? := fun vendor itemNo =>
      some ⟨vendor, itemNo, .city (if itemNo = 1 then "NYC" else "LAX"), 0⟩
    tripStructure? := fun _ => none }

/-- A journey from coast to coast, with some way to its start and some way on from its end. -/
def acrossWith (toStart fromEnd : Location → Location → Segment) : Itinerary where
  segments := [
    toStart (.ofAirport "BOS" "US" "1") ⟨"JFK", "NYC", "US", "1"⟩,
    .air "DL" 1 ⟨"JFK", "NYC", "US", "1"⟩ (.ofAirport "ORD" "US" "1"),
    .air "DL" 2 (.ofAirport "ORD" "US" "1") (.ofAirport "LAX" "US" "1"),
    fromEnd (.ofAirport "LAX" "US" "1") (.ofAirport "SFO" "US" "1")]

/-- Between the two places it does not matter how the journey starts and ends. -/
theorem outcome_of_way_to_start :
    let rule := carrierBetween.compile .primary "ATP" coastToCoast
    let onGround := acrossWith .surface .surface
    let byOthers := acrossWith (.air "AA" 7) (.openFlight "UA")
    rule.reach.window onGround.segments = some ⟨1, 3⟩ ∧
      rule.SeesSame onGround byOthers ∧
      rule.outcome coastToCoast onGround = .pass ∧
      rule.outcome coastToCoast byOthers = .pass := by
  intro rule onGround byOthers
  have window_eq : rule.reach.window onGround.segments = some ⟨1, 3⟩ := by decide
  have passes : rule.outcome coastToCoast onGround = .pass := by decide
  have same : rule.SeesSame onGround byOthers := by
    refine ⟨rfl, rfl, fun window found position started notEnded => ?_⟩
    obtain rfl : window = ⟨1, 3⟩ := Option.some.inj (found.symm.trans window_eq)
    obtain rfl | rfl : position = 1 ∨ position = 2 := by
      simp only at started notEnded
      omega
    · rfl
    · rfl
  refine ⟨window_eq, same, passes, ?_⟩
  exact (outcome_of_same_window rule coastToCoast onGround byOthers same).2.1.symm.trans passes

/-- Where the rule looks at the whole journey, the flight of another carrier to the start counts. -/
example :
    (({ carrierBetween with geo := {} } : RuleRecord).compile .primary "ATP" {}).outcome {}
      (acrossWith (.air "AA" 7) (.openFlight "UA")) = .fail := by
  decide

end FlightRule
