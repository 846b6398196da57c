import FlightRule.Text.Basic
import FlightRule.Text.Upper
import FlightRule.Context
import FlightRule.Travel
import FlightRule.Record.Coding

/-!
# Conditions and filters on single segments

The conditions that the slots of a rule compile to, made of patterns for carriers and for flight
numbers.  Filed flight numbers are signed: a number that is not positive stands for any flight.
Besides, filters restrict the equipment and the weekday of the segments that a rule looks at.

No condition holds of a segment that is not flown, because such a segment has no confirmed carrier
and flight number (`Condition.isFlown_of_accepts`).
-/

namespace FlightRule

/-! ## Carrier patterns -/

/-- A requirement on a carrier code. -/
inductive CarrierPattern where
  /-- Any carrier. -/
  | any
  /-- The carrier with this code, in upper case. -/
  | exact (code : String)
deriving DecidableEq, Repr

/-- The requirement that a filed code stands for: a blank code admits any carrier. -/
def CarrierPattern.ofCode (code : String) : CarrierPattern :=
  if Text.trim code = "" then any else exact (Text.upper (Text.trim code))

/-! ## Flight number patterns -/

/-- A requirement on a flight number. -/
inductive FlightPattern where
  /-- Any flight. -/
  | any
  /-- The flight with this number. -/
  | exact (number : UInt32)
  /-- The flights from one number to another. -/
  | range (low high : UInt32)
deriving DecidableEq, Repr

namespace FlightPattern

/-- The flight number that a filed number stands for; zero for a negative one. -/
def number (filed : Int32) : UInt32 :=
  UInt32.ofNat filed.toInt.toNat

/-- The requirement that a single filed number stands for. -/
def ofNumber (filed : Int32) : FlightPattern :=
  if filed.toInt ≤ 0 then any else exact (number filed)

/--
The requirement that a filed pair stands for: any flight when it starts with -1, its first number
when the second is not positive, and else the flights between the two numbers in either order.
-/
def ofRange (first last : Int32) : FlightPattern :=
  if first = -1 then any
  else if last.toInt ≤ 0 then ofNumber first
  else range (min (number first) (number last)) (max (number first) (number last))

/-- The flight number meets the requirement. -/
def accepts : FlightPattern → UInt32 → Bool
  | any, _ => true
  | exact number, flight => number == flight
  | range low high, flight => decide (low ≤ flight) && decide (flight ≤ high)

end FlightPattern

/-! ## Conditions -/

/-- A requirement on the carriers and the number of a flight. -/
structure FlightCondition where
  /-- The requirement on the selling carrier. -/
  carrier : CarrierPattern
  /-- The requirement on the operating carrier. -/
  operating : CarrierPattern
  flight : FlightPattern
  /-- On a ticket round the world, carrier codes may be codes of alliances. -/
  allianceAware : Bool := false
deriving DecidableEq, Repr

/--
A carrier meets a requirement: its code is alike the required one, or the required code is an
alliance of the carrier where alliances count.
-/
def CarrierPattern.accepts
    (pattern : CarrierPattern)
    (allianceAware : Bool)
    (context : Context)
    (code : String) : Bool :=
  match pattern with
  | any => true
  | exact expected =>
    Text.alike expected code ||
      (allianceAware && context.roundTheWorld && (context.alliances code).contains expected)

namespace FlightCondition

/-- The condition of a slot with a carrier and flights. -/
def literal (carrier : String) (flight : FlightPattern) : FlightCondition :=
  { carrier := .ofCode carrier, operating := .any, flight }

/-- The condition of a row of a flight table. -/
def ofRow (row : FlightRow) : FlightCondition where
  carrier := .ofCode row.marketingCarrier
  operating := .ofCode row.operatingCarrier
  flight := .ofRange row.first row.last
  allianceAware := true

/-- A flown segment meets the condition. -/
def accepts (condition : FlightCondition) (context : Context) (segment : Segment) : Bool :=
  segment.isFlown &&
    condition.carrier.accepts condition.allianceAware context segment.carrier &&
    condition.operating.accepts condition.allianceAware context segment.operating &&
    condition.flight.accepts segment.flightNumber

end FlightCondition

/-- The requirement that a flight is in a table. -/
structure TableCondition where
  vendor : String
  itemNo : UInt32
  rows : List FlightCondition
deriving DecidableEq, Repr

namespace TableCondition

/-- The condition of a reference to a flight table. -/
def ofTable (table : FlightTable) : TableCondition :=
  ⟨table.vendor, table.itemNo, table.rows.map .ofRow⟩

/-- A flown segment meets the condition of some row. -/
def accepts (condition : TableCondition) (context : Context) (segment : Segment) : Bool :=
  segment.isFlown && condition.rows.any (·.accepts context segment)

end TableCondition

/-- A condition on a single flight. -/
inductive Condition where
  | flight (condition : FlightCondition)
  | table (condition : TableCondition)
  /-- Any flown segment. -/
  | anyFlown
deriving DecidableEq, Repr

/-- A flown segment meets the condition. -/
def Condition.accepts : Condition → Context → Segment → Bool
  | flight condition, context, segment => condition.accepts context segment
  | table condition, context, segment => condition.accepts context segment
  | anyFlown, _, segment => segment.isFlown

/-- No condition holds of a segment that is not flown. -/
theorem Condition.isFlown_of_accepts
    {condition : Condition}
    {context : Context}
    {segment : Segment}
    (accepted : condition.accepts context segment = true) :
    segment.isFlown = true := by
  cases condition with
  | flight condition =>
    simp only [accepts, FlightCondition.accepts, Bool.and_eq_true] at accepted
    exact accepted.1.1.1
  | table condition =>
    simp only [accepts, TableCondition.accepts, Bool.and_eq_true] at accepted
    exact accepted.1
  | anyFlown => exact accepted

/-! ## Filters -/

/-- A set of weekdays, one bit for each from Monday in the lowest. -/
structure WeekdaySet where
  bits : UInt8 := 0
deriving DecidableEq, Repr

namespace WeekdaySet

/-- The bit of a weekday. -/
def bit (day : Weekday) : UInt8 :=
  1 <<< UInt8.ofNat day.index

/-- The weekday is in the set. -/
def contains (mask : WeekdaySet) (day : Weekday) : Bool :=
  mask.bits &&& bit day != 0

/-- The set has no weekday. -/
def isEmpty (mask : WeekdaySet) : Bool :=
  mask.bits == 0

/-- The weekday that a digit from 1 to 7 stands for. -/
def ofDigit? : Char → Option Weekday
  | '1' => some .monday
  | '2' => some .tuesday
  | '3' => some .wednesday
  | '4' => some .thursday
  | '5' => some .friday
  | '6' => some .saturday
  | '7' => some .sunday
  | _ => none

/-- The weekdays whose digits occur in a text. -/
def ofText (days : String) : WeekdaySet :=
  ⟨(days.toList.filterMap ofDigit?).foldl (fun bits day => bits ||| bit day) 0⟩

/-- The characters of a text that are neither blank nor the digit of a weekday. -/
def strayChars (days : String) : List Char :=
  days.toList.filter fun c => !Text.isBlank c && (ofDigit? c).isNone

end WeekdaySet

/-- A requirement on a segment besides its carrier and flight number. -/
inductive SegmentFilter where
  /-- The aircraft type has to be, or may not be, the one with this code. -/
  | equipment (code : String) (validity : Validity)
  /-- The departure has to be on one of these weekdays, if it is known. -/
  | days (mask : WeekdaySet)
deriving DecidableEq, Repr

/-- The segment meets the requirement. -/
def SegmentFilter.accepts (filter : SegmentFilter) (segment : Segment) : Bool :=
  match filter with
  | equipment _ .blank => true
  | equipment code .valid => Text.alike (Text.trim segment.equipment) (Text.trim code)
  | equipment code .invalid => !Text.alike (Text.trim segment.equipment) (Text.trim code)
  | days mask => segment.weekday.elim true mask.contains

end FlightRule
