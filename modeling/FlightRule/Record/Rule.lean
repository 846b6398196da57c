import FlightRule.Record.Coding

/-!
# Rule records

A flight application rule as it is filed.  In the slots, an empty carrier stands for any carrier,
flight number -1 for any flight, and 0 for no flight number.
-/

namespace FlightRule

/-- One condition of a rule: a carrier and flight number, or a reference to a flight table. -/
structure Slot where
  carrier : String := ""
  flight : Int32 := 0
  /-- The number of a flight table; zero when none is referenced. -/
  tableItem : UInt32 := 0
deriving DecidableEq, Repr

namespace Slot

/-- A slot with a carrier and a flight number. -/
def literal (carrier : String) (flight : Int32) : Slot := { carrier, flight }

/-- A slot that references a flight table. -/
def table (tableItem : UInt32) : Slot := { tableItem }

/-- Something is coded in the slot. -/
def isCoded (slot : Slot) : Bool :=
  slot.tableItem != 0 || slot.carrier != "" || slot.flight != 0

end Slot

/-- The three slots of a rule. -/
structure Slots where
  first : Slot := {}
  second : Slot := {}
  third : Slot := {}
deriving DecidableEq, Repr

/-- For each shape of a journey, whether it is admitted or excluded. -/
structure ShapeFlags where
  nonstop : Validity := .blank
  direct : Validity := .blank
  multistop : Validity := .blank
  onestop : Validity := .blank
  online : Validity := .blank
  interline : Validity := .blank
  sameFlight : Validity := .blank
deriving DecidableEq, Repr

/-- No shape is admitted or excluded. -/
def ShapeFlags.isBlank (flags : ShapeFlags) : Bool :=
  flags == {}

/-- The places that restrict the journey, by the numbers of geographic items; zero for none. -/
structure GeoReferences where
  use : LocationUse := .blank
  betweenItem : UInt32 := 0
  andItem : UInt32 := 0
  viaItem : UInt32 := 0
  viaPolarity : ViaPolarity := .blank
  hidden : HiddenStops := .blank
deriving DecidableEq, Repr

/-- No geographic item is referenced. -/
def GeoReferences.isBlank (fields : GeoReferences) : Bool :=
  fields.betweenItem == 0 && fields.andItem == 0 && fields.viaItem == 0

/-- A flight application rule as it is filed. -/
structure RuleRecord where
  vendor : String
  itemNo : UInt32
  availability : Availability := .available
  application : Application := .blank
  slots : Slots := {}
  /-- How the conditions of the first two slots are joined. -/
  relation1 : Option Relation := none
  /-- How the third slot is joined to the first two. -/
  relation2 : Option Relation := none
  /-- The code of an aircraft type. -/
  equipment : String := ""
  equipmentValidity : Validity := .blank
  shape : ShapeFlags := {}
  /-- The digits of the weekdays, from 1 for Monday to 7 for Sunday. -/
  days : String := ""
  geo : GeoReferences := {}
  direction : DirectionIndicator := .blank
deriving DecidableEq, Repr

end FlightRule
