import FlightRule.Calendar.Timestamp

/-!
# Travel

A place is known by the codes of its airport, its city, its nation and its area.  A segment takes
the passenger from one place to the next: by a confirmed flight, by a flight still to be chosen, or
on the ground.  An itinerary is the sequence of segments that one fare pays for.  A pricing unit
joins fares that are priced together; each of them serves its outbound or its inbound part.
-/

namespace FlightRule

/-! ## Places -/

/-- A place on a journey. -/
structure Location where
  /-- The code of the airport. -/
  airport : String
  /-- The code of the city that the airport serves. -/
  city : String
  /-- The code of the nation. -/
  nation : String
  /-- The code of the traffic area. -/
  area : String
deriving DecidableEq, Repr, Inhabited

/-- A place whose city has the code of its airport. -/
def Location.ofAirport (airport nation area : String) : Location :=
  ⟨airport, airport, nation, area⟩

/-! ## Segments -/

/-- How a segment is travelled. -/
inductive SegmentKind where
  /-- A confirmed flight. -/
  | air
  /-- A flight that has not been chosen yet. -/
  | openFlight
  /-- Travel on the ground. -/
  | surface
deriving DecidableEq, Repr

/-- A segment of a journey. -/
structure Segment where
  kind : SegmentKind
  origin : Location
  destination : Location
  /-- The carrier under whose code the flight is sold. -/
  carrier : String
  /-- The carrier that operates the flight; empty when it is the selling carrier. -/
  operatingCarrier : String := ""
  flightNumber : UInt32
  /-- Places where the flight stops on its way, in order. -/
  hiddenStops : List Location := []
  /-- The code of the aircraft type. -/
  equipment : String := ""
  /-- The local time of departure, when it is known. -/
  departure : Option Timestamp := none
deriving DecidableEq, Repr

namespace Segment

/-- A confirmed flight. -/
def air (carrier : String) (flightNumber : UInt32) (origin destination : Location) : Segment :=
  { kind := .air, origin, destination, carrier, flightNumber }

/-- A flight of a carrier that has not been chosen yet. -/
def openFlight (carrier : String) (origin destination : Location) : Segment :=
  { kind := .openFlight, origin, destination, carrier, flightNumber := 0 }

/-- Travel on the ground. -/
def surface (origin destination : Location) : Segment :=
  { kind := .surface, origin, destination, carrier := "", flightNumber := 0 }

/-- The segment with one more place where the flight stops, after the others. -/
def addHiddenStop (segment : Segment) (stop : Location) : Segment :=
  { segment with hiddenStops := segment.hiddenStops ++ [stop] }

/-- A segment is flown when its flight is confirmed. -/
def isFlown (segment : Segment) : Bool :=
  segment.kind == .air

/-- The carrier that operates the flight. -/
def operating (segment : Segment) : String :=
  if segment.operatingCarrier = "" then segment.carrier else segment.operatingCarrier

/-- The weekday of departure, when the time of departure is known. -/
def weekday (segment : Segment) : Option Weekday :=
  segment.departure.map Timestamp.weekday

end Segment

/-! ## Itineraries and pricing units -/

/-- The direction in which the market of a fare is travelled. -/
inductive MarketDirection where
  | outbound
  | inbound
  | unknown
deriving DecidableEq, Repr

/-- The segments that one fare pays for, in the order of travel. -/
structure Itinerary where
  segments : List Segment
  direction : MarketDirection := .unknown
deriving DecidableEq, Repr

/-- The use of a fare in a pricing unit. -/
structure FareUsage where
  itinerary : Itinerary
  /-- The fare serves the inbound part of the unit. -/
  inbound : Bool
deriving DecidableEq, Repr

/-- Fares that are priced together. -/
structure PricingUnit where
  fareUsages : List FareUsage
deriving DecidableEq, Repr

/-- The segments of all usages that serve the other part of the unit than the given one. -/
def PricingUnit.oppositeSegments (unit : PricingUnit) (usage : FareUsage) : List Segment :=
  (unit.fareUsages.filter fun other => other.inbound != usage.inbound).flatMap fun other =>
    other.itinerary.segments

end FlightRule
