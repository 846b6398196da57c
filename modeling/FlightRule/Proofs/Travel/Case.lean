import FlightRule.Proofs.Criteria.Agreement
import FlightRule.Proofs.Geo.Places
import FlightRule.Proofs.Text.Case
import FlightRule.Reference.Data
import FlightRule.Travel

/-!
# Journeys in small letters

The codes on a journey are read without regard to the case of their letters.  A journey whose codes
are written in small letters goes by the same places (`Segment.keepsPlaces_lower`) and meets the
same requirements (`Requirement.isMet_lower`), provided that alliances are kept under the codes of
carriers without regard to case, as reference data in memory keep them
(`ReferenceData.ignoresCase_alliancesOf`).
-/

namespace FlightRule

/-! ## Places -/

/-- The place with its codes in small letters. -/
def Location.lower (place : Location) : Location where
  airport := Text.lower place.airport
  city := Text.lower place.city
  nation := Text.lower place.nation
  area := Text.lower place.area

namespace PlaceMatcher

mutual

/-- Matchers accept places without regard to case, by recursion on their zones. -/
theorem accepts_lower : ∀ (matcher : PlaceMatcher) (place : Location),
    matcher.accepts place.lower = matcher.accepts place
  | airport code, place => Text.alike_lower_left place.airport code
  | city code, place => Text.alike_lower_left place.city code
  | nation code, place => Text.alike_lower_left place.nation code
  | area code, place => Text.alike_lower_left place.area code
  | zone members, place => anyAccepts_lower members place

theorem anyAccepts_lower : ∀ (members : List PlaceMatcher) (place : Location),
    anyAccepts members place.lower = anyAccepts members place
  | [], _ => rfl
  | member :: members, place => by
    rw [anyAccepts, anyAccepts, member.accepts_lower place, anyAccepts_lower members place]

end

end PlaceMatcher

namespace Segment

/-- The segment with its codes in small letters. -/
def lower (segment : Segment) : Segment :=
  { segment with
    origin := segment.origin.lower
    destination := segment.destination.lower
    carrier := Text.lower segment.carrier
    operatingCarrier := Text.lower segment.operatingCarrier
    hiddenStops := segment.hiddenStops.map Location.lower
    equipment := Text.lower segment.equipment }

theorem keepsPlaces_lower : KeepsPlaces lower Location.lower where
  origin_eq := fun _ => rfl
  destination_eq := fun _ => rfl
  hiddenStops_eq := fun _ => rfl
  accepts_eq := PlaceMatcher.accepts_lower

@[simp] theorem isFlown_lower (segment : Segment) : segment.lower.isFlown = segment.isFlown := rfl

theorem operating_lower (segment : Segment) :
    segment.lower.operating = Text.lower segment.operating := by
  simp only [operating, lower, Text.lower_eq_empty_iff]
  exact (apply_ite Text.lower ..).symm

/-! ## Shapes -/

@[simp] theorem sameFlight_lower (left right : Segment) :
    left.lower.sameFlight right.lower = left.sameFlight right := by
  simp only [sameFlight, lower, Text.alike_lower_left, Text.alike_lower_right]

theorem repeatsFlight_map_lower (segments : List Segment) :
    repeatsFlight (segments.map lower) = repeatsFlight segments := by
  induction segments with
  | nil => rfl
  | cons segment segments inductionHypothesis =>
      rw [List.map_cons, repeatsFlight, repeatsFlight, inductionHypothesis]
      simp only [List.any_map, Function.comp_def, sameFlight_lower]

theorem carriers_map_lower (segments : List Segment) :
    carriers (segments.map lower) = carriers segments := by
  simp only [carriers, List.map_map, Function.comp_def, lower, Text.upper_lower]

theorem stopCount_map_lower (segments : List Segment) (countHidden : Bool) :
    stopCount (segments.map lower) countHidden = stopCount segments countHidden := by
  simp only [stopCount, List.length_map, List.length_flatMap, List.map_map, Function.comp_def,
    lower]

theorem filter_isFlown_map_lower (segments : List Segment) :
    (segments.map lower).filter isFlown = (segments.filter isFlown).map lower := by
  rw [List.filter_map]
  rfl

end Segment

/-- A journey in small letters has the same shapes. -/
theorem ShapeKind.holds_lower
    (kind : ShapeKind)
    (segments opposite : List Segment)
    (countHidden : Bool) :
    kind.holds (segments.map Segment.lower) (opposite.map Segment.lower) countHidden =
      kind.holds segments opposite countHidden := by
  cases kind with
  | nonStop => simp only [holds, List.length_map, Segment.stopCount_map_lower]
  | direct =>
      simp only [holds, List.head?_map, Option.any_map, List.all_map, Function.comp_def,
        Segment.sameFlight_lower]
  | oneStop => simp only [holds, Segment.stopCount_map_lower]
  | multiStop => simp only [holds, Segment.stopCount_map_lower]
  | online => simp only [holds, List.length_map, Segment.carriers_map_lower]
  | interline => simp only [holds, Segment.carriers_map_lower]
  | sameFlight =>
      simp only [holds, Segment.filter_isFlown_map_lower, List.isEmpty_map,
        Segment.repeatsFlight_map_lower, List.any_map, Function.comp_def, Segment.sameFlight_lower]

/-- Segments in small letters have the same shape. -/
theorem Requirement.shapeMet_lower (requirement : Requirement) (segments opposite : List Segment) :
    requirement.shapeMet (segments.map Segment.lower) (opposite.map Segment.lower) =
      requirement.shapeMet segments opposite := by
  simp only [shapeMet, ShapeConstraint.holds, Segment.filter_isFlown_map_lower,
    ShapeKind.holds_lower]

/-! ## Conditions and filters -/

/-- Carriers whose codes differ in the case of letters have the same alliances. -/
def AllianceSource.IgnoresCase (alliances : AllianceSource) : Prop :=
  ∀ carrier, alliances (Text.lower carrier) = alliances carrier

/-- The alliances of a carrier do not depend on the case of its code. -/
theorem ReferenceData.ignoresCase_alliancesOf (data : ReferenceData) :
    AllianceSource.IgnoresCase data.alliancesOf := by
  intro carrier
  rw [alliancesOf, alliancesOf, Text.upper_lower]

theorem SegmentFilter.accepts_lower (filter : SegmentFilter) (segment : Segment) :
    filter.accepts segment.lower = filter.accepts segment := by
  cases filter with
  | equipment code validity =>
      cases validity <;>
        simp only [accepts, Segment.lower, Text.trim_lower, Text.alike_lower_left]
  | days mask => rfl

variable {context : Context}

/-- A carrier in small letters meets the same requirements, if alliances ignore case. -/
theorem CarrierPattern.accepts_lower
    (ignoresCase : context.alliances.IgnoresCase)
    (pattern : CarrierPattern)
    (allianceAware : Bool)
    (code : String) :
    pattern.accepts allianceAware context (Text.lower code) =
      pattern.accepts allianceAware context code := by
  cases pattern with
  | any => rfl
  | exact expected => rw [accepts, accepts, Text.alike_lower_right, ignoresCase]

theorem FlightCondition.accepts_lower
    (ignoresCase : context.alliances.IgnoresCase)
    (condition : FlightCondition)
    (segment : Segment) :
    condition.accepts context segment.lower = condition.accepts context segment := by
  rw [accepts, accepts, Segment.operating_lower]
  simp only [Segment.lower, CarrierPattern.accepts_lower ignoresCase]
  rfl

/-- A segment in small letters meets the same conditions, if alliances ignore case. -/
theorem Condition.accepts_lower
    (ignoresCase : context.alliances.IgnoresCase)
    (condition : Condition)
    (segment : Segment) :
    condition.accepts context segment.lower = condition.accepts context segment := by
  cases condition with
  | flight condition => exact condition.accepts_lower ignoresCase segment
  | table condition =>
      simp only [accepts, TableCondition.accepts, FlightCondition.accepts_lower ignoresCase,
        Segment.isFlown_lower]
  | anyFlown => rfl

/-- A requirement is met by a journey in small letters if it is met by the journey. -/
theorem Requirement.isMet_lower
    (ignoresCase : context.alliances.IgnoresCase)
    (requirement : Requirement)
    (segments opposite : List Segment) :
    requirement.isMet context (segments.map Segment.lower) (opposite.map Segment.lower) =
      requirement.isMet context segments opposite := by
  apply isMet_congr rfl _ (requirement.shapeMet_lower segments opposite)
  refine List.forall₂_map_left_iff.2 (List.forall₂_same.2 fun segment _ => ?_)
  constructor
  · rfl
  · simp only [SegmentFilter.accepts_lower]
  · intro criteria _ condition _
    exact condition.accepts_lower ignoresCase segment

/-! ## Itineraries -/

/-- The itinerary with its codes in small letters. -/
def Itinerary.lower (itinerary : Itinerary) : Itinerary :=
  { itinerary with segments := itinerary.segments.map Segment.lower }

/-- The usage with its codes in small letters. -/
def FareUsage.lower (usage : FareUsage) : FareUsage :=
  { usage with itinerary := usage.itinerary.lower }

end FlightRule
