import FlightRule.Format.Record
import FlightRule.Requirement

/-!
# Written form of requirements
-/

namespace FlightRule

open Json

instance : Encode CarrierPattern where
  encode
    | .any => ofString "Any"
    | .exact code => ofFields [("Exact", encode code)]

instance : Decode CarrierPattern where
  decode levels value :=
    match levels, value.variant? with
    | _, some (.bare "Any") => some .any
    | _ + 1, some (.holding "Any" .null) => some .any
    | levels + 1, some (.holding "Exact" content) => (decode levels content).map .exact
    | _, _ => none

instance : Encode FlightPattern where
  encode
    | .any => ofString "Any"
    | .exact flight => ofFields [("Exact", encode flight)]
    | .range low high =>
      ofFields [("Range", ofFields [("lo", encode low), ("hi", encode high)])]

instance : Decode FlightPattern where
  decode levels value :=
    match levels, value.variant? with
    | _, some (.bare "Any") => some .any
    | _ + 1, some (.holding "Any" .null) => some .any
    | levels + 1, some (.holding "Exact" content) => (decode levels content).map .exact
    | levels + 1, some (.holding "Range" content) =>
      readRecord levels (fun levels => do
        let low ← field "lo" (decode levels)
        let high ← field "hi" (decode levels)
        return .range low high) content
    | _, _ => none

instance : Encode FlightCondition where
  encode condition := ofFields [
    ("carrier", encode condition.carrier),
    ("operating", encode condition.operating),
    ("flight", encode condition.flight),
    ("alliance_aware", encode condition.allianceAware)]

instance : Decode FlightCondition where
  decode levels := readRecord levels fun levels => do
    let carrier ← field "carrier" (decode levels)
    let operating ← field "operating" (decode levels)
    let flight ← field "flight" (decode levels)
    let allianceAware ← fieldOr "alliance_aware" false (decode levels)
    return { carrier, operating, flight, allianceAware }

instance : Encode TableCondition where
  encode condition := ofFields [
    ("vendor", encode condition.vendor),
    ("item_no", encode condition.itemNo),
    ("entries", encode condition.rows)]

instance : Decode TableCondition where
  decode levels := readRecord levels fun levels => do
    let vendor ← field "vendor" (decode levels)
    let itemNo ← field "item_no" (decode levels)
    let rows ← field "entries" (decode levels)
    return { vendor, itemNo, rows }

instance : Encode Condition where
  encode
    | .flight condition => ofFields [("Flight", encode condition)]
    | .table condition => ofFields [("Table", encode condition)]
    | .anyFlown => ofString "Always"

instance : Decode Condition where
  decode levels value :=
    match levels, value.variant? with
    | _, some (.bare "Always") => some .anyFlown
    | _ + 1, some (.holding "Always" .null) => some .anyFlown
    | levels + 1, some (.holding "Flight" content) => (decode levels content).map .flight
    | levels + 1, some (.holding "Table" content) => (decode levels content).map .table
    | _, _ => none

instance : Encode WeekdaySet := ⟨fun mask => encode mask.bits⟩

instance : Decode WeekdaySet := ⟨fun levels value => (decode levels value).map WeekdaySet.mk⟩

instance : Encode SegmentFilter where
  encode
    | .equipment code validity =>
      ofFields [("Equipment", ofFields [("code", encode code), ("validity", encode validity)])]
    | .days mask => ofFields [("DayOfWeek", encode mask)]

instance : Decode SegmentFilter where
  decode levels value :=
    match levels, value.variant? with
    | levels + 1, some (.holding "Equipment" content) =>
      readRecord levels (fun levels => do
        let code ← field "code" (decode levels)
        let validity ← field "validity" (decode levels)
        return .equipment code validity) content
    | levels + 1, some (.holding "DayOfWeek" content) => (decode levels content).map .days
    | _, _ => none

namespace Criteria

/-- The JSON value that criteria are written as. -/
def toJson : Criteria → Json
  | leaf condition => ofFields [("Leaf", encode condition)]
  | combine relation left right =>
    ofFields [("Combine", ofFields [
      ("op", encode relation),
      ("lhs", left.toJson),
      ("rhs", right.toJson)])]

/-- The criteria that a JSON value denotes; each relation opens two more levels. -/
def ofJson? : (levels : Nat) → Json → Option Criteria
  | 0, _ => none
  | levels + 1, value =>
    match value.variant? with
    | some (.holding "Leaf" content) => (decode levels content).map leaf
    | some (.holding "Combine" content) =>
      match levels with
      | 0 => none
      | levels + 1 =>
        readFields (do
          let relation ← field "op" (decode levels)
          let left ← field "lhs" (ofJson? levels)
          let right ← field "rhs" (ofJson? levels)
          return combine relation left right) content
    | _ => none

end Criteria

instance : Encode Criteria := ⟨Criteria.toJson⟩
instance : Decode Criteria := ⟨Criteria.ofJson?⟩

instance : Named ShapeKind where
  values := [.nonStop, .direct, .oneStop, .multiStop, .online, .interline, .sameFlight]
  name
    | .nonStop => "NonStop"
    | .direct => "Direct"
    | .oneStop => "OneStop"
    | .multiStop => "MultiStop"
    | .online => "Online"
    | .interline => "Interline"
    | .sameFlight => "SameFlight"

instance : Encode ShapeConstraint where
  encode constraint := ofFields [
    ("valid", encode constraint.valid),
    ("invalid", encode constraint.invalid),
    ("count_hidden_stops", encode constraint.countHidden)]

instance : Decode ShapeConstraint where
  decode levels := readRecord levels fun levels => do
    let valid ← field "valid" (decode levels)
    let invalid ← field "invalid" (decode levels)
    let countHidden ← field "count_hidden_stops" (decode levels)
    return { valid, invalid, countHidden }

instance : Encode Requirement where
  encode requirement := ofFields [
    ("criteria", encode requirement.criteria),
    ("filters", encode requirement.filters),
    ("shape", encode requirement.shape)]

instance : Decode Requirement where
  decode levels := readRecord levels fun levels => do
    let criteria ← fieldOrNull "criteria" (decode levels)
    let filters ← field "filters" (decode levels)
    let shape ← fieldOrNull "shape" (decode levels)
    return { criteria, filters, shape }

end FlightRule
