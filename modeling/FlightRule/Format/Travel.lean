import FlightRule.Json.Record
import FlightRule.Travel

/-!
# Written form of journeys
-/

namespace FlightRule

open Json

instance : Named SegmentKind where
  values := [.air, .openFlight, .surface]
  name
    | .air => "Air"
    | .openFlight => "Open"
    | .surface => "Surface"

instance : Named MarketDirection where
  values := [.outbound, .inbound, .unknown]
  name
    | .outbound => "Outbound"
    | .inbound => "Inbound"
    | .unknown => "Unknown"

instance : Named Weekday where
  values := Weekday.all
  name
    | .monday => "Mon"
    | .tuesday => "Tue"
    | .wednesday => "Wed"
    | .thursday => "Thu"
    | .friday => "Fri"
    | .saturday => "Sat"
    | .sunday => "Sun"

instance : Encode Timestamp := ⟨fun time => ofString time.text⟩

instance : Decode Timestamp := ⟨fun _ value => value.string?.bind Timestamp.ofText?⟩

instance : Encode Location where
  encode place := ofFields [
    ("airport", encode place.airport),
    ("city", encode place.city),
    ("nation", encode place.nation),
    ("area", encode place.area)]

instance : Decode Location where
  decode levels := readRecord levels fun levels => do
    let airport ← field "airport" (decode levels)
    let city ← field "city" (decode levels)
    let nation ← field "nation" (decode levels)
    let area ← field "area" (decode levels)
    return { airport, city, nation, area }

instance : Encode Segment where
  encode segment := ofFields [
    ("kind", encode segment.kind),
    ("origin", encode segment.origin),
    ("destination", encode segment.destination),
    ("carrier", encode segment.carrier),
    ("operating_carrier", encode segment.operatingCarrier),
    ("flight_number", encode segment.flightNumber),
    ("hidden_stops", encode segment.hiddenStops),
    ("equipment", encode segment.equipment),
    ("departure", encode segment.departure)]

instance : Decode Segment where
  decode levels := readRecord levels fun levels => do
    let kind ← field "kind" (decode levels)
    let origin ← field "origin" (decode levels)
    let destination ← field "destination" (decode levels)
    let carrier ← field "carrier" (decode levels)
    let operatingCarrier ← fieldOr "operating_carrier" "" (decode levels)
    let flightNumber ← field "flight_number" (decode levels)
    let hiddenStops ← fieldOr "hidden_stops" [] (decode levels)
    let equipment ← fieldOr "equipment" "" (decode levels)
    let departure ← fieldOr "departure" none (decode levels)
    return {
      kind, origin, destination, carrier, operatingCarrier, flightNumber, hiddenStops, equipment,
      departure }

instance : Encode Itinerary where
  encode itinerary := ofFields [
    ("segments", encode itinerary.segments),
    ("direction", encode itinerary.direction)]

instance : Decode Itinerary where
  decode levels := readRecord levels fun levels => do
    let segments ← field "segments" (decode levels)
    let direction ← fieldOr "direction" .unknown (decode levels)
    return { segments, direction }

instance : Encode FareUsage where
  encode usage := ofFields [
    ("itinerary", encode usage.itinerary),
    ("inbound", encode usage.inbound)]

instance : Decode FareUsage where
  decode levels := readRecord levels fun levels => do
    let itinerary ← field "itinerary" (decode levels)
    let inbound ← field "inbound" (decode levels)
    return { itinerary, inbound }

instance : Encode PricingUnit where
  encode unit := ofFields [("fare_usages", encode unit.fareUsages)]

instance : Decode PricingUnit where
  decode levels := readRecord levels fun levels => do
    let fareUsages ← field "fare_usages" (decode levels)
    return { fareUsages }

end FlightRule
