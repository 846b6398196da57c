import FlightRule.Json.Record
import FlightRule.Record.Rule

/-!
# Written form of rule records
-/

namespace FlightRule

open Json

instance : Named Application where
  values := [.blank, .must, .mustNot, .mustRange, .mustNotRange]
  name
    | .blank => "Blank"
    | .must => "Must"
    | .mustNot => "MustNot"
    | .mustRange => "MustRange"
    | .mustNotRange => "MustNotRange"

instance : Named Relation where
  values := [.and, .or, .andOr, .connecting]
  name
    | .and => "And"
    | .or => "Or"
    | .andOr => "AndOr"
    | .connecting => "Connecting"

instance : Named Validity where
  values := [.blank, .valid, .invalid]
  name
    | .blank => "Blank"
    | .valid => "Valid"
    | .invalid => "Invalid"

instance : Named LocationUse where
  values := [.blank, .betweenAnd, .via]
  name
    | .blank => "Blank"
    | .betweenAnd => "BetweenAnd"
    | .via => "Via"

instance : Named ViaPolarity where
  values := [.blank, .must, .mustNot]
  name
    | .blank => "Blank"
    | .must => "Must"
    | .mustNot => "MustNot"

instance : Named HiddenStops where
  values := [.blank, .yes, .no]
  name
    | .blank => "Blank"
    | .yes => "Yes"
    | .no => "No"

instance : Named DirectionIndicator where
  values := [.blank, .outbound, .inbound, .either, .oneNotBoth, .both]
  name
    | .blank => "Blank"
    | .outbound => "Outbound"
    | .inbound => "Inbound"
    | .either => "Either"
    | .oneNotBoth => "OneNotBoth"
    | .both => "Both"

instance : Named Availability where
  values := [.available, .dataUnavailable, .textOnly]
  name
    | .available => "Available"
    | .dataUnavailable => "DataUnavailable"
    | .textOnly => "TextOnly"

instance : Encode Slot where
  encode slot := ofFields [
    ("carrier", encode slot.carrier),
    ("flight", encode slot.flight),
    ("table_item", encode slot.tableItem)]

instance : Decode Slot where
  decode levels := readRecord levels fun levels => do
    let carrier ← fieldOr "carrier" "" (decode levels)
    let flight ← fieldOr "flight" 0 (decode levels)
    let tableItem ← fieldOr "table_item" 0 (decode levels)
    return { carrier, flight, tableItem }

instance : Encode Slots where
  encode slots := array [encode slots.first, encode slots.second, encode slots.third]

instance : Decode Slots where
  decode levels value :=
    match levels, value with
    | levels + 1, array [first, second, third] =>
      return ⟨← decode levels first, ← decode levels second, ← decode levels third⟩
    | _, _ => none

instance : Encode ShapeFlags where
  encode flags := ofFields [
    ("nonstop", encode flags.nonstop),
    ("direct", encode flags.direct),
    ("multistop", encode flags.multistop),
    ("onestop", encode flags.onestop),
    ("online", encode flags.online),
    ("interline", encode flags.interline),
    ("same_flight", encode flags.sameFlight)]

instance : Decode ShapeFlags where
  decode levels := readRecord levels fun levels => do
    let nonstop ← fieldOr "nonstop" .blank (decode levels)
    let direct ← fieldOr "direct" .blank (decode levels)
    let multistop ← fieldOr "multistop" .blank (decode levels)
    let onestop ← fieldOr "onestop" .blank (decode levels)
    let online ← fieldOr "online" .blank (decode levels)
    let interline ← fieldOr "interline" .blank (decode levels)
    let sameFlight ← fieldOr "same_flight" .blank (decode levels)
    return { nonstop, direct, multistop, onestop, online, interline, sameFlight }

instance : Encode GeoReferences where
  encode fields := ofFields [
    ("loc_appl", encode fields.use),
    ("between_item", encode fields.betweenItem),
    ("and_item", encode fields.andItem),
    ("via_item", encode fields.viaItem),
    ("via_polarity", encode fields.viaPolarity),
    ("hidden", encode fields.hidden)]

instance : Decode GeoReferences where
  decode levels := readRecord levels fun levels => do
    let use ← fieldOr "loc_appl" .blank (decode levels)
    let betweenItem ← fieldOr "between_item" 0 (decode levels)
    let andItem ← fieldOr "and_item" 0 (decode levels)
    let viaItem ← fieldOr "via_item" 0 (decode levels)
    let viaPolarity ← fieldOr "via_polarity" .blank (decode levels)
    let hidden ← fieldOr "hidden" .blank (decode levels)
    return { use, betweenItem, andItem, viaItem, viaPolarity, hidden }

instance : Encode RuleRecord where
  encode record := ofFields [
    ("vendor", encode record.vendor),
    ("item_no", encode record.itemNo),
    ("unavail_tag", encode record.availability),
    ("flight_appl", encode record.application),
    ("criteria", encode record.slots),
    ("relational1", encode record.relation1),
    ("relational2", encode record.relation2),
    ("equipment", encode record.equipment),
    ("equipment_appl", encode record.equipmentValidity),
    ("shape", encode record.shape),
    ("day_of_week", encode record.days),
    ("geo", encode record.geo),
    ("in_out", encode record.direction)]

instance : Decode RuleRecord where
  decode levels := readRecord levels fun levels => do
    let vendor ← field "vendor" (decode levels)
    let itemNo ← field "item_no" (decode levels)
    let availability ← fieldOr "unavail_tag" .available (decode levels)
    let application ← fieldOr "flight_appl" .blank (decode levels)
    let slots ← fieldOr "criteria" {} (decode levels)
    let relation1 ← fieldOr "relational1" none (decode levels)
    let relation2 ← fieldOr "relational2" none (decode levels)
    let equipment ← fieldOr "equipment" "" (decode levels)
    let equipmentValidity ← fieldOr "equipment_appl" .blank (decode levels)
    let shape ← fieldOr "shape" {} (decode levels)
    let days ← fieldOr "day_of_week" "" (decode levels)
    let geo ← fieldOr "geo" {} (decode levels)
    let direction ← fieldOr "in_out" .blank (decode levels)
    return {
      vendor, itemNo, availability, application, slots, relation1, relation2, equipment,
      equipmentValidity, shape, days, geo, direction }

end FlightRule
