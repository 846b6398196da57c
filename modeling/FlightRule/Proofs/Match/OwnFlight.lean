import FlightRule.Proofs.Match.Flight
import FlightRule.Proofs.Text.Upper
import FlightRule.Rule.Compile

/-!
# Requirements that name a flight

A slot or a row of a flight table can name the carrier and the number of one flight.  The number is
always found again (`FlightPattern.accepts_ofNumber_filed`).  The carrier is found again when its
code is settled: the code of a requirement loses the blanks at its ends and is put in upper case,
while the code of a segment is compared as it is, but for the case of the letters A to Z
(`CarrierPattern.accepts_ofCode_iff`).
-/

namespace FlightRule

variable {context : Context}

/-- A flight number as it is filed. -/
def Segment.filedNumber (segment : Segment) : Int32 :=
  Int32.ofNat segment.flightNumber.toNat

theorem Segment.toInt_filedNumber
    {segment : Segment}
    (bounded : segment.flightNumber.toNat ≤ 2147483647) :
    segment.filedNumber.toInt = segment.flightNumber.toNat :=
  Int32.toInt_ofNat_of_lt (Nat.lt_succ_of_le bounded)

/-- The requirement of a flight's own number accepts the flight. -/
theorem FlightPattern.accepts_ofNumber_filed
    {segment : Segment}
    (bounded : segment.flightNumber.toNat ≤ 2147483647) :
    (ofNumber segment.filedNumber).accepts segment.flightNumber = true :=
  accepts_ofNumber_iff.2 (.inr (Segment.toInt_filedNumber bounded).symm)

/--
The requirement of a code accepts the code itself when it is blank or settled, or where it is at the
same time the code of an alliance of the carrier, and alliances count.
-/
theorem CarrierPattern.accepts_ofCode_iff {code : String} {allianceAware : Bool} :
    (ofCode code).accepts allianceAware context code = true ↔
      Text.trim code = "" ∨ Text.IsSettled code ∨
        allianceAware = true ∧ context.roundTheWorld = true ∧
          (context.alliances code).contains (Text.upper (Text.trim code)) = true := by
  unfold ofCode
  by_cases blank : Text.trim code = ""
  · rw [if_pos blank]
    exact iff_of_true rfl (.inl blank)
  · rw [if_neg blank, accepts, Bool.or_eq_true, Text.alike_upper_trim_iff, Bool.and_eq_true,
      Bool.and_eq_true, and_assoc]
    simp only [blank, false_or]

/-- A blank code admits every carrier. -/
theorem CarrierPattern.accepts_ofCode_of_blank
    {blank : String}
    (anyCarrier : Text.trim blank = "")
    (allianceAware : Bool)
    (code : String) :
    (ofCode blank).accepts allianceAware context code = true := by
  rw [ofCode, if_pos anyCarrier]
  rfl

/--
The slot that names the carrier and the number of a flight describes this flight exactly when the
carrier's code is blank, or has no blanks at its ends and no character that upper case changes
beyond the letters A to Z; and so does the row of a flight table, except that on a ticket round the
world the code may also be that of an alliance of the carrier.
-/
theorem own_flight_accepted_iff
    (segment : Segment)
    (flown : segment.isFlown = true)
    (bounded : segment.flightNumber.toNat ≤ 2147483647)
    (vendor : String)
    (compileContext : Context)
    (operatingCarrier : String)
    (anyOperating : Text.trim operatingCarrier = "") :
    (∃ condition,
      ((Slot.literal segment.carrier segment.filedNumber).condition compileContext vendor).result =
        .ok condition ∧
      ∀ context, condition.accepts context segment = true ↔
        Text.trim segment.carrier = "" ∨ Text.IsSettled segment.carrier) ∧
    ∀ context : Context,
      (FlightCondition.ofRow
        ⟨segment.carrier, operatingCarrier, segment.filedNumber, 0⟩).accepts context segment =
          true ↔
        Text.trim segment.carrier = "" ∨ Text.IsSettled segment.carrier ∨
          context.roundTheWorld = true ∧
            (context.alliances segment.carrier).contains
              (Text.upper (Text.trim segment.carrier)) = true := by
  have sameNumber := FlightPattern.accepts_ofNumber_filed bounded
  refine ⟨⟨_, rfl, fun context => ?_⟩, fun context => ?_⟩
  · simp only [Condition.accepts, FlightCondition.accepts, FlightCondition.literal, Slot.literal,
      flown, sameNumber, Bool.true_and, Bool.and_true, Bool.and_eq_true,
      CarrierPattern.accepts_ofCode_iff, Bool.false_eq_true, false_and, or_false]
    exact and_iff_left rfl
  · have anyCarrier (code : String) :
        (CarrierPattern.ofCode operatingCarrier).accepts true context code = true :=
      CarrierPattern.accepts_ofCode_of_blank anyOperating true code
    simp only [FlightCondition.accepts, FlightCondition.ofRow, flown, anyCarrier, sameNumber,
      FlightPattern.ofRange_zero, Bool.true_and, Bool.and_true,
      CarrierPattern.accepts_ofCode_iff, true_and]

/-- The largest number that can be filed, of a carrier in mixed case, is found by slot and row. -/
theorem own_flight_of_largest_number :
    let segment := Segment.air "dL" 2147483647 default default
    segment.isFlown = true ∧ segment.flightNumber.toNat ≤ 2147483647 ∧ Text.trim " " = "" ∧
      (∃ condition,
        ((Slot.literal "dL" segment.filedNumber).condition {} "ATP").result = .ok condition ∧
          condition.accepts {} segment = true) ∧
      (FlightCondition.ofRow ⟨"dL", " ", segment.filedNumber, 0⟩).accepts {} segment = true := by
  intro segment
  have bounded : segment.flightNumber.toNat ≤ 2147483647 := by decide
  have anyOperating : Text.trim " " = "" := by decide
  have settled : Text.IsSettled segment.carrier := by decide
  obtain ⟨⟨condition, compiled, accepts_iff⟩, row_accepts_iff⟩ :=
    own_flight_accepted_iff segment rfl bounded "ATP" {} " " anyOperating
  exact ⟨rfl, bounded, anyOperating, ⟨condition, compiled, (accepts_iff {}).2 (.inr settled)⟩,
    (row_accepts_iff {}).2 (.inr (.inl settled))⟩

/-- A carrier with a blank before its code is not found by its own code, by slot or by row. -/
theorem own_flight_not_accepted :
    let segment := Segment.air " DL" 5 default default
    segment.isFlown = true ∧ segment.carrier ≠ "" ∧ segment.flightNumber.toNat ≤ 2147483647 ∧
      (∃ condition,
        ((Slot.literal " DL" segment.filedNumber).condition {} "ATP").result = .ok condition ∧
          condition.accepts {} segment = false) ∧
      (FlightCondition.ofRow ⟨" DL", "", segment.filedNumber, 0⟩).accepts {} segment = false :=
  ⟨rfl, by decide, by decide, ⟨_, rfl, by decide⟩, by decide⟩

/-- Nor is a carrier with a small letter that is not one of a to z. -/
example :
    let segment := Segment.air "é7" 5 default default
    (FlightCondition.literal "é7" (.ofNumber 5)).accepts {} segment = false ∧
      (FlightCondition.ofRow ⟨"é7", "", 5, 0⟩).accepts {} segment = false := by
  decide +kernel

end FlightRule
