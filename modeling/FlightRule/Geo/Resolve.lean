import FlightRule.Context
import FlightRule.Geo.Scope
import FlightRule.Record.Rule
import FlightRule.Rule.Issue

/-!
# Resolution of geographic fields

The scope that the geographic fields of a record stand for.  The items are looked up in a fixed
order, and the first that cannot be resolved is the issue.
-/

namespace FlightRule

namespace GeoPoint

/-- The point of a geographic item, bounded by its trip structure if it has one. -/
def resolve (context : Context) (vendor : String) (item : UInt32) : Except Issue GeoPoint :=
  match context.geography.item? vendor item with
  | none => .error (.unresolvedGeoItem vendor item)
  | some found =>
    if found.tripStructure = 0 then .ok { matcher := found.matcher }
    else
      match context.geography.tripStructure? found.tripStructure with
      | none => .error (.unresolvedTripStructure found.tripStructure)
      | some boundary => .ok { matcher := found.matcher, boundary }

/-- The point of a geographic item, or none for the number zero. -/
def resolve? (context : Context) (vendor : String) (item : UInt32) :
    Except Issue (Option GeoPoint) :=
  if item = 0 then .ok none else (resolve context vendor item).map some

end GeoPoint

namespace GeoScope

/-- The form of a scope between two items, of which either may be missing. -/
def betweenForm (same : Bool) : Option GeoPoint → Option GeoPoint → ScopeForm
  | some first, some second => if same then .within first else .between first second
  | some first, none => .startingAt first
  | none, some second => .endingAt second
  | none, none => .whole

/--
The scope of the geographic fields.  A scope by way of places goes through the between-item and
the and-item; when both are missing it goes through the via-item, which then is no separate point
that the window has to pass.
-/
def resolve
    (context : Context)
    (vendor : String)
    (fields : GeoReferences) : Except Issue GeoScope := do
  let point (item : UInt32) := GeoPoint.resolve? context vendor item
  let scope (form : ScopeForm) (via : Option GeoPoint) : GeoScope :=
    { form, via, hidden := fields.hidden, polarity := fields.viaPolarity }
  match fields.use with
  | .blank => return scope .whole (← point fields.viaItem)
  | .betweenAnd =>
    let first ← point fields.betweenItem
    let second ← point fields.andItem
    let form := betweenForm (fields.betweenItem == fields.andItem) first second
    return scope form (← point fields.viaItem)
  | .via =>
    let first ← point fields.betweenItem
    let second ← point fields.andItem
    match first.toList ++ second.toList with
    | [] =>
      let via ← point fields.viaItem
      return scope (via.elim .whole fun via => .through [via]) none
    | points => return scope (.through points) (← point fields.viaItem)

end GeoScope

end FlightRule
