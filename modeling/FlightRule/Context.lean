import FlightRule.Travel
import FlightRule.Text.Basic
import FlightRule.Ordered.Set

/-!
# Transactions

What all rule checks of one pricing transaction share: whether the ticket goes round the world,
the settings, and where reference data come from.

A flight table lists carriers with ranges of flight numbers; a flight is in the table when it is
in one of its rows.  A place matcher names an airport, a city, a nation or an area, or joins matchers
to a zone.  Its meaning is `PlaceMatcher.accepts`; `accepts_zone` says that a zone accepts what one
of its members accepts.
-/

namespace FlightRule

/-! ## Flight tables -/

/-- A row of a flight table. -/
structure FlightRow where
  marketingCarrier : String
  /-- The operating carrier; empty for any. -/
  operatingCarrier : String := ""
  /-- The first flight number of the row; -1 for any flight. -/
  first : Int32
  /-- The last flight number of the row; 0 when the row is for a single flight. -/
  last : Int32 := 0
deriving DecidableEq, Repr

/-- A table of flights, known by its vendor and number. -/
structure FlightTable where
  vendor : String
  itemNo : UInt32
  rows : List FlightRow
deriving DecidableEq, Repr

/-! ## Geographic items -/

/-- A description of places. -/
inductive PlaceMatcher where
  | airport (code : String)
  | city (code : String)
  | nation (code : String)
  | area (code : String)
  /-- The places that some member describes. -/
  | zone (members : List PlaceMatcher)
deriving Repr, Inhabited

namespace PlaceMatcher

mutual

/-- The place is one that the matcher describes; letter case does not matter. -/
def accepts : PlaceMatcher → Location → Bool
  | airport code, place => Text.alike place.airport code
  | city code, place => Text.alike place.city code
  | nation code, place => Text.alike place.nation code
  | area code, place => Text.alike place.area code
  | zone members, place => anyAccepts members place
termination_by structural matcher => matcher

/-- Some matcher of a list accepts the place. -/
def anyAccepts : List PlaceMatcher → Location → Bool
  | [], _ => false
  | member :: members, place => member.accepts place || anyAccepts members place
termination_by structural members => members

end

theorem anyAccepts_eq_any (members : List PlaceMatcher) (place : Location) :
    anyAccepts members place = members.any (·.accepts place) := by
  induction members with
  | nil => rfl
  | cons member members inductionHypothesis =>
    rw [anyAccepts, List.any_cons, inductionHypothesis]

/-- A zone accepts what one of its members accepts. -/
@[simp] theorem accepts_zone (members : List PlaceMatcher) (place : Location) :
    (zone members).accepts place = members.any (·.accepts place) := by
  rw [accepts, anyAccepts_eq_any]

end PlaceMatcher

/-- The points of a journey at which a geographic item may match. -/
structure Boundary where
  /-- The start of the journey. -/
  origin : Bool := true
  /-- The end of the journey. -/
  destination : Bool := true
  /-- Connections and hidden stops. -/
  intermediate : Bool := true
deriving DecidableEq, Repr

/-- A geographic item, known by its vendor and number. -/
structure GeoItem where
  vendor : String
  itemNo : UInt32
  matcher : PlaceMatcher
  /-- The number of the trip structure that bounds the item; zero for none. -/
  tripStructure : UInt32 := 0
deriving Repr

/-! ## Transactions -/

/-- What a user can choose about compilation and its journal. -/
structure Settings where
  /--
  Where a rule qualifies another, a provisional pass of its requirement is read as not applicable.
  A requirement is met or not met, so this changes no outcome.
  -/
  softPassAsSkip : Bool := true
  /-- A range rule that also references a flight table is read as a rule without range. -/
  rangeWithTableAsPlain : Bool := true
  /-- What every compiled rule asks for is written to the journal. -/
  showDemand : Bool := false
deriving DecidableEq, Repr

/-- Where flight tables are found, by vendor and number. -/
abbrev TableSource : Type := String → UInt32 → Option FlightTable

/-- Where geographic data are found. -/
structure GeoSource where
  /-- The geographic item of a vendor with a number. -/
  item? : String → UInt32 → Option GeoItem
  /-- The boundary of a trip structure. -/
  tripStructure? : UInt32 → Option Boundary

/-- The alliances that a carrier belongs to. -/
abbrev AllianceSource : Type := String → OrderedSet String

/-- What all checks of one transaction share. -/
structure Context where
  /-- A ticket round the world has no outbound and inbound part. -/
  roundTheWorld : Bool := false
  settings : Settings := {}
  tables : TableSource := fun _ _ => none
  geography : GeoSource := ⟨fun _ _ => none, fun _ => none⟩
  alliances : AllianceSource := fun _ => .empty

instance : Inhabited Context := ⟨{}⟩

end FlightRule
