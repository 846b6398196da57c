import Mathlib.Algebra.Order.Group.Int
import FlightRule.Match

/-!
# Flight numbers over all words

Filed flight numbers are signed words and flight numbers are unsigned ones, so that every filed
number that a pattern keeps is read again without a sign.  Only numbers that are not negative are
read again, and these stay the same numbers (`reread?_eq`), so that a pattern can be described
by integers alone, up to the limits of both kinds of words (`ofRange_agrees_with_integers`).
-/

namespace FlightRule.FlightPattern

variable {filed first last : Int32} {flight : UInt32}

/-! ## Numbers -/

/-- A filed number above zero is kept, and any other one is read as zero. -/
theorem toInt_number (filed : Int32) : ((number filed).toNat : Int) = max filed.toInt 0 := by
  have bounded := filed.toInt_lt
  have small : filed.toInt.toNat < 2 ^ 32 := by omega
  rw [number, UInt32.toNat_ofNat_of_lt' small, Int.ofNat_toNat]

theorem toInt_max_zero (filed : Int32) : (max filed 0).toInt = max filed.toInt 0 := by
  change (if filed ≤ 0 then 0 else filed).toInt = max filed.toInt 0
  rw [apply_ite Int32.toInt, Int32.toInt_zero]
  simp only [Int32.le_iff_toInt_le, Int32.toInt_zero]
  omega

/-! ## Numbers read again without a sign -/

/-- The word that has the bits of a filed number, if without a sign it is the same number. -/
def reread? (filed : Int32) : Option UInt32 :=
  if (filed.toUInt32.toNat : Int) = filed.toInt then some filed.toUInt32 else none

/-- The requirement of a single filed number, unless reading a number again changes it. -/
def ofNumber? (filed : Int32) : Option FlightPattern :=
  if filed ≤ 0 then some any else exact <$> reread? filed

/-- The requirement of a filed pair, unless reading a number again changes it. -/
def ofRange? (first last : Int32) : Option FlightPattern :=
  if first = -1 then some any
  else if last ≤ 0 then ofNumber? first
  else do
    let low ← reread? (max first 0)
    let high ← reread? last
    return range (min low high) (max low high)

/-- A number that is not negative stays the same when it is read again. -/
theorem reread?_eq (notNegative : 0 ≤ filed.toInt) : reread? filed = some (number filed) := by
  have nonneg : 0 ≤ filed := by rwa [Int32.le_iff_toInt_le]
  have same : (filed.toUInt32.toNat : Int) = filed.toInt := by
    rw [Int32.toNat_toUInt32_of_le nonneg, Int32.cast_toNatClampNeg filed nonneg]
  rw [reread?, if_pos same, Option.some_inj, ← UInt32.toNat_inj, ← Int.natCast_inj, same,
    toInt_number, max_eq_left notNegative]

/-- The largest negative number would become the largest number of all. -/
example : (-1 : Int32).toUInt32 = 4294967295 ∧ reread? (-1) = none := by decide

/-- The checked reading of a filed number never fails. -/
theorem ofNumber?_eq (filed : Int32) : ofNumber? filed = some (ofNumber filed) := by
  unfold ofNumber? ofNumber
  simp only [Int32.le_iff_toInt_le, Int32.toInt_zero]
  by_cases sentinel : filed.toInt ≤ 0
  · rw [if_pos sentinel, if_pos sentinel]
  · rw [if_neg sentinel, if_neg sentinel, reread?_eq (by omega)]
    rfl

theorem number_max_zero (filed : Int32) : number (max filed 0) = number filed := by
  rw [← UInt32.toNat_inj, ← Int.natCast_inj, toInt_number, toInt_number, toInt_max_zero,
    max_assoc, max_self]

/-- The checked reading of a filed pair never fails. -/
theorem ofRange?_eq (first last : Int32) : ofRange? first last = some (ofRange first last) := by
  unfold ofRange? ofRange
  simp only [Int32.le_iff_toInt_le, Int32.toInt_zero]
  by_cases anyFlight : first = -1
  · rw [if_pos anyFlight, if_pos anyFlight]
  · rw [if_neg anyFlight, if_neg anyFlight]
    by_cases single : last.toInt ≤ 0
    · rw [if_pos single, if_pos single, ofNumber?_eq]
    · have firstKept : 0 ≤ (max first 0).toInt := by
        rw [toInt_max_zero]
        exact le_max_right _ _
      rw [if_neg single, if_neg single, reread?_eq firstKept, reread?_eq (by omega),
        number_max_zero]
      rfl

/-! ## Flights that patterns accept -/

/-- A filed number admits the flight with this number, or any flight if it is not positive. -/
theorem accepts_ofNumber_iff :
    (ofNumber filed).accepts flight = true ↔
      filed.toInt ≤ 0 ∨ (flight.toNat : Int) = filed.toInt := by
  unfold ofNumber
  by_cases sentinel : filed.toInt ≤ 0
  · rw [if_pos sentinel]
    simp [accepts, sentinel]
  · rw [if_neg sentinel, accepts, beq_iff_eq, ← UInt32.toNat_inj, ← Int.natCast_inj, toInt_number]
    omega

/-- The flights between two numbers, in either order, are compared as integers. -/
theorem accepts_between_iff {low high : UInt32} :
    (range (min low high) (max low high)).accepts flight = true ↔
      min (low.toNat : Int) high.toNat ≤ flight.toNat ∧
        (flight.toNat : Int) ≤ max (low.toNat : Int) high.toNat := by
  rw [accepts, Bool.and_eq_true, decide_eq_true_eq, decide_eq_true_eq, UInt32.le_iff_toNat_le,
    UInt32.le_iff_toNat_le, UInt32.toNat_min, UInt32.toNat_max]
  omega

/--
A filed pair admits any flight when it starts with -1, the flights of its first number when the
second is not positive, and else those between its two numbers in either order.
-/
theorem accepts_ofRange_iff :
    (ofRange first last).accepts flight = true ↔
      first.toInt = -1 ∨
      last.toInt ≤ 0 ∧ (first.toInt ≤ 0 ∨ (flight.toNat : Int) = first.toInt) ∨
      first.toInt ≠ -1 ∧ 0 < last.toInt ∧
        min (max first.toInt 0) last.toInt ≤ flight.toNat ∧
        flight.toNat ≤ max (max first.toInt 0) last.toInt := by
  have isAny : first = -1 ↔ first.toInt = -1 := by
    rw [← Int32.toInt_inj]
    rfl
  unfold ofRange
  by_cases anyFlight : first = -1
  · rw [if_pos anyFlight]
    simp [accepts, isAny.1 anyFlight]
  · rw [if_neg anyFlight]
    rw [isAny] at anyFlight
    by_cases single : last.toInt ≤ 0
    · rw [if_pos single, accepts_ofNumber_iff]
      omega
    · rw [if_neg single, accepts_between_iff, toInt_number, toInt_number]
      omega

/-! ## Forms of patterns -/

/-- The ends of a range are in order. -/
theorem ordered_of_ofRange
    {low high : UInt32}
    (range_eq : ofRange first last = range low high) :
    low ≤ high := by
  unfold ofRange ofNumber at range_eq
  split at range_eq
  · cases range_eq
  · split at range_eq
    · split at range_eq <;> cases range_eq
    · injection range_eq with low_eq high_eq
      rw [← low_eq, ← high_eq, UInt32.le_iff_toNat_le, UInt32.toNat_min, UInt32.toNat_max]
      exact min_le_max

/-- Two positive numbers can be filed in either order. -/
theorem ofRange_comm (firstPositive : 0 < first.toInt) (lastPositive : 0 < last.toInt) :
    ofRange first last = ofRange last first := by
  have notAny {bound : Int32} (positive : 0 < bound.toInt) : bound ≠ -1 := by
    rintro rfl
    exact absurd positive (by decide)
  have min_comm : min (number first) (number last) = min (number last) (number first) := by
    rw [← UInt32.toNat_inj, UInt32.toNat_min, UInt32.toNat_min, Nat.min_comm]
  have max_comm : max (number first) (number last) = max (number last) (number first) := by
    rw [← UInt32.toNat_inj, UInt32.toNat_max, UInt32.toNat_max, Nat.max_comm]
  rw [ofRange, if_neg (notAny firstPositive), if_neg (Int.not_le.2 lastPositive), min_comm,
    max_comm, ofRange, if_neg (notAny lastPositive), if_neg (Int.not_le.2 firstPositive)]

theorem ofRange_zero (filed : Int32) : ofRange filed 0 = ofNumber filed := by
  by_cases anyFlight : filed = -1
  · rw [anyFlight]
    rfl
  · rw [ofRange, if_neg anyFlight, if_pos (by decide)]

/--
Which flights a filed pair stands for can be said in integers: all of them when it starts with -1;
when the second number is not positive, those with the first number, or again all when that is not
positive either; and else those between the two numbers, where a negative first one counts as zero.
No number changes when it is read without a sign.  A range is kept in order, two positive numbers
may be filed in either order, and a second number of zero adds nothing to the first.
-/
theorem ofRange_agrees_with_integers (first last : Int32) :
    (∀ flight : UInt32, (ofRange first last).accepts flight = true ↔
      first.toInt = -1 ∨
      last.toInt ≤ 0 ∧ (first.toInt ≤ 0 ∨ (flight.toNat : Int) = first.toInt) ∨
      first.toInt ≠ -1 ∧ 0 < last.toInt ∧
        min (max first.toInt 0) last.toInt ≤ flight.toNat ∧
        flight.toNat ≤ max (max first.toInt 0) last.toInt) ∧
    ofNumber? first = some (ofNumber first) ∧
    ofRange? first last = some (ofRange first last) ∧
    (∀ low high, ofRange first last = range low high → low ≤ high) ∧
    (0 < first.toInt → 0 < last.toInt → ofRange first last = ofRange last first) ∧
    ofRange first 0 = ofNumber first := by
  refine ⟨fun flight => accepts_ofRange_iff, ofNumber?_eq first, ofRange?_eq first last,
    fun low high range_eq => ordered_of_ofRange range_eq, ?_, ofRange_zero first⟩
  intro firstPositive lastPositive
  exact ofRange_comm firstPositive lastPositive

/-- From the largest filed number back to 1, the range ends below the flight numbers beyond it. -/
theorem ofRange_from_largest_number :
    let pattern := ofRange Int32.maxValue 1
    0 < Int32.maxValue.toInt ∧ 0 < (1 : Int32).toInt ∧ pattern = ofRange 1 Int32.maxValue ∧
      pattern.accepts 2147483647 = true ∧ pattern.accepts 2147483648 = false := by
  intro pattern
  obtain ⟨accepts_iff, _, _, _, reversed, _⟩ := ofRange_agrees_with_integers Int32.maxValue 1
  have largestPositive : 0 < Int32.maxValue.toInt := by decide
  have onePositive : 0 < (1 : Int32).toInt := by decide
  refine ⟨largestPositive, onePositive, reversed largestPositive onePositive, ?_, ?_⟩
  · rw [accepts_iff]
    decide
  · rw [Bool.eq_false_iff, ne_eq, accepts_iff]
    decide

end FlightRule.FlightPattern
