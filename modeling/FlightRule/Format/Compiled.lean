import FlightRule.Format.Record
import FlightRule.Format.Reference
import FlightRule.Geo.Scope
import FlightRule.Format.Requirement
import FlightRule.Rule.Compiled

/-!
# Written form of compiled rules

What a rule is compiled to, with the geographic scope that it has.
-/

namespace FlightRule

open Json

/-! ## Geographic scopes -/

instance : Encode GeoPoint where
  encode point := ofFields [
    ("matcher", encode point.matcher),
    ("boundary", encode point.boundary)]

instance : Decode GeoPoint where
  decode levels := readRecord levels fun levels => do
    let matcher ← field "matcher" (decode levels)
    let boundary ← field "boundary" (decode levels)
    return { matcher, boundary }

instance : Encode ScopeForm where
  encode
    | .whole => ofString "Whole"
    | .between first second => ofFields [("Between", array [encode first, encode second])]
    | .within zone => ofFields [("Within", encode zone)]
    | .startingAt point => ofFields [("From", encode point)]
    | .endingAt point => ofFields [("To", encode point)]
    | .through points => ofFields [("Through", encode points)]

instance : Decode ScopeForm where
  decode levels value :=
    match levels, value.variant? with
    | _, some (.bare "Whole") => some .whole
    | _ + 1, some (.holding "Whole" .null) => some .whole
    | levels + 2, some (.holding "Between" (.array [first, second])) =>
      return .between (← decode levels first) (← decode levels second)
    | levels + 1, some (.holding "Within" content) => (decode levels content).map .within
    | levels + 1, some (.holding "From" content) => (decode levels content).map .startingAt
    | levels + 1, some (.holding "To" content) => (decode levels content).map .endingAt
    | levels + 1, some (.holding "Through" content) => (decode levels content).map .through
    | _, _ => none

instance : Encode GeoScope where
  encode scope := ofFields [
    ("window", encode scope.form),
    ("via", encode scope.via),
    ("hidden", encode scope.hidden),
    ("polarity", encode scope.polarity)]

instance : Decode GeoScope where
  decode levels := readRecord levels fun levels => do
    let form ← field "window" (decode levels)
    let via ← fieldOrNull "via" (decode levels)
    let hidden ← field "hidden" (decode levels)
    let polarity ← field "polarity" (decode levels)
    return { form, via, hidden, polarity }

/-! ## Compiled rules -/

instance : Named Outcome where
  values := [.pass, .fail, .skip, .softPass, .stop]
  name
    | .pass => "Pass"
    | .fail => "Fail"
    | .skip => "Skip"
    | .softPass => "SoftPass"
    | .stop => "Stop"

instance : Named Witness where
  values := [.found, .absent]
  name
    | .found => "Found"
    | .absent => "Absent"

instance : Named RuleUse where
  values := [.primary, .ifQualifier, .ifNotQualifier]
  name
    | .primary => "Primary"
    | .ifQualifier => "IfQualifier"
    | .ifNotQualifier => "IfNotQualifier"

instance : Encode Demand where
  encode
    | .fixed outcome => ofFields [("Degraded", encode outcome)]
    | .requires requirement => ofFields [("Tree", encode requirement)]

instance : Encode Reach where
  encode
    | .within scope => ofFields [("Resolved", encode scope)]
    | .nowhere => ofString "Unresolved"

instance : Encode Issue where
  encode
    | .unresolvedTable vendor itemNo =>
      ofFields [("UnresolvedTable",
        ofFields [("vendor", encode vendor), ("item_no", encode itemNo)])]
    | .unresolvedGeoItem vendor itemNo =>
      ofFields [("UnresolvedGeoItem",
        ofFields [("vendor", encode vendor), ("item_no", encode itemNo)])]
    | .unresolvedTripStructure tripStructure =>
      ofFields [("UnresolvedTripStructure", ofFields [("tsi", encode tripStructure)])]
    | .danglingRelation position =>
      ofFields [("DanglingRelational", ofFields [("position", encode position)])]
    | .missingFirstSlot => ofString "MissingFirstCriterion"
    | .orphanSlot slot => ofFields [("OrphanCriterion", ofFields [("slot", encode slot)])]
    | .rangeCarrierMismatch first second =>
      ofFields [("RangeCarrierMismatch",
        ofFields [("first", encode first), ("second", encode second)])]
    | .rangeWithTable => ofString "RangeWithTable"
    | .invalidDay char => ofFields [("InvalidDayOfWeek", encode (String.singleton char))]

instance : Encode CompiledRule where
  encode rule := ofFields [
    ("vendor", encode rule.vendor),
    ("item_no", encode rule.itemNo),
    ("fingerprint", encode rule.fingerprint),
    ("usage", encode rule.use),
    ("appl", encode rule.application),
    ("in_out", encode rule.direction),
    ("body", encode rule.demand),
    ("geo", encode rule.reach),
    ("issues", encode rule.issues)]

end FlightRule
