import FlightRule.Json.Record
import FlightRule.Reference.Data

/-!
# Written form of reference data

A trip structure is written under its number as a name, and read from a name that is a JSON number
without escapes.  Of two members with one name, the later counts.
-/

namespace FlightRule

open Json

instance : Encode FlightRow where
  encode row := ofFields [
    ("marketing_carrier", encode row.marketingCarrier),
    ("operating_carrier", encode row.operatingCarrier),
    ("flt1", encode row.first),
    ("flt2", encode row.last)]

instance : Decode FlightRow where
  decode levels := readRecord levels fun levels => do
    let marketingCarrier ← field "marketing_carrier" (decode levels)
    let operatingCarrier ← fieldOr "operating_carrier" "" (decode levels)
    let first ← field "flt1" (decode levels)
    let last ← fieldOr "flt2" 0 (decode levels)
    return { marketingCarrier, operatingCarrier, first, last }

instance : Encode FlightTable where
  encode table := ofFields [
    ("vendor", encode table.vendor),
    ("item_no", encode table.itemNo),
    ("entries", encode table.rows)]

instance : Decode FlightTable where
  decode levels := readRecord levels fun levels => do
    let vendor ← field "vendor" (decode levels)
    let itemNo ← field "item_no" (decode levels)
    let rows ← field "entries" (decode levels)
    return { vendor, itemNo, rows }

namespace PlaceMatcher

/-- The object whose one member is a matcher's form. -/
def form (name : String) (content : Json) : Json :=
  ofFields [(name, content)]

mutual

/-- The JSON value that a matcher is written as. -/
def toJson : PlaceMatcher → Json
  | airport code => form "Airport" (encode code)
  | city code => form "City" (encode code)
  | nation code => form "Nation" (encode code)
  | area code => form "Area" (encode code)
  | zone members => form "Zone" (.array (membersToJson members))
termination_by structural matcher => matcher

/-- The JSON values that the members of a zone are written as. -/
def membersToJson : List PlaceMatcher → List Json
  | [] => []
  | member :: members => member.toJson :: membersToJson members
termination_by structural members => members

end

/-- The matcher that a JSON value denotes; a zone inside a zone opens two more levels. -/
def ofJson? : (levels : Nat) → Json → Option PlaceMatcher
  | 0, _ => none
  | levels + 1, value =>
    match value.variant? with
    | some (.holding "Airport" content) => (decode levels content).map airport
    | some (.holding "City" content) => (decode levels content).map city
    | some (.holding "Nation" content) => (decode levels content).map nation
    | some (.holding "Area" content) => (decode levels content).map area
    | some (.holding "Zone" content) =>
      match levels, content with
      | levels + 1, .array items => (items.mapM (ofJson? levels)).map zone
      | _, _ => none
    | _ => none

end PlaceMatcher

instance : Encode PlaceMatcher := ⟨PlaceMatcher.toJson⟩
instance : Decode PlaceMatcher := ⟨PlaceMatcher.ofJson?⟩

instance : Encode Boundary where
  encode boundary := ofFields [
    ("origin", encode boundary.origin),
    ("destination", encode boundary.destination),
    ("intermediate", encode boundary.intermediate)]

instance : Decode Boundary where
  decode levels := readRecord levels fun levels => do
    let origin ← fieldOr "origin" true (decode levels)
    let destination ← fieldOr "destination" true (decode levels)
    let intermediate ← fieldOr "intermediate" true (decode levels)
    return { origin, destination, intermediate }

instance : Encode GeoItem where
  encode item := ofFields [
    ("vendor", encode item.vendor),
    ("item_no", encode item.itemNo),
    ("location", encode item.matcher),
    ("tsi", encode item.tripStructure)]

instance : Decode GeoItem where
  decode levels := readRecord levels fun levels => do
    let vendor ← field "vendor" (decode levels)
    let itemNo ← field "item_no" (decode levels)
    let matcher ← field "location" (decode levels)
    let tripStructure ← fieldOr "tsi" 0 (decode levels)
    return { vendor, itemNo, matcher, tripStructure }

instance : Encode (OrderedSet String) := ⟨fun set => encode set.toList⟩

instance : Decode (OrderedSet String) :=
  ⟨fun levels value => (decode levels value).map OrderedSet.ofList⟩

/-- The object with a member for each entry, named by the key's lexeme. -/
def OrderedMap.toJson
    {κ α : Type}
    [Ord κ]
    [Encode α]
    (nameOf : κ → List Char)
    (map : OrderedMap κ α) : Json :=
  .object (map.entries.map fun (key, value) => (nameOf key, encode value))

/-- The map with an entry for each member of an object. -/
def OrderedMap.ofJson?
    {κ α : Type}
    [Ord κ]
    [Std.TransOrd κ]
    [Std.LawfulEqOrd κ]
    [Decode α]
    (key? : List Char → Option κ)
    (levels : Nat)
    (value : Json) : Option (OrderedMap κ α) :=
  match levels, value with
  | levels + 1, .object members =>
    (members.mapM fun (name, value) => return (← key? name, ← decode levels value)).map
      OrderedMap.ofList
  | _, _ => none

/-- The number that a member name denotes: all of it is one JSON number. -/
def numberOfName? (name : List Char) : Option UInt32 :=
  match Json.Number.scan name with
  | some (lexeme, []) => decode 0 (.number lexeme)
  | _ => none

instance {α : Type} [Encode α] : Encode (OrderedMap UInt32 α) :=
  ⟨OrderedMap.toJson fun number => Json.Number.ofInt number.toNat⟩

instance {α : Type} [Decode α] : Decode (OrderedMap UInt32 α) :=
  ⟨OrderedMap.ofJson? numberOfName?⟩

instance {α : Type} [Encode α] : Encode (OrderedMap String α) :=
  ⟨OrderedMap.toJson Json.Literal.encode⟩

instance {α : Type} [Decode α] : Decode (OrderedMap String α) :=
  ⟨OrderedMap.ofJson? Json.Literal.decode⟩

instance : Encode ReferenceDocument where
  encode document := ofFields [
    ("tables", encode document.tables),
    ("geo_items", encode document.geoItems),
    ("trip_structures", encode document.tripStructures),
    ("alliances", encode document.alliances)]

instance : Decode ReferenceDocument where
  decode levels := readRecord levels fun levels => do
    let tables ← fieldOr "tables" [] (decode levels)
    let geoItems ← fieldOr "geo_items" [] (decode levels)
    let tripStructures ← fieldOr "trip_structures" .empty (decode levels)
    let alliances ← fieldOr "alliances" .empty (decode levels)
    return { tables, geoItems, tripStructures, alliances }

/-- The reference document that a text denotes. -/
def ReferenceDocument.ofText? (text : String) : Option ReferenceDocument :=
  recordOfText? ReferenceDocument text

/-- The reference data of the document that a text denotes. -/
def ReferenceData.ofText (text : String) : Except ReferenceError ReferenceData :=
  match ReferenceDocument.ofText? text with
  | none => .error .malformed
  | some document => document.load

end FlightRule
