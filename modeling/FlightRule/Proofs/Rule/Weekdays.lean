import Mathlib.Data.Nat.Bitwise
import FlightRule.Proofs.Rule.Defects
import FlightRule.Proofs.Rule.Slots

/-!
# Weekdays of a rule

The weekdays of a rule are filed as a text, and kept as the bits of a word from which the filter on
departures reads one again.  The bit of a weekday is set exactly when its digit occurs in the text
(`WeekdaySet.contains_ofText_iff`), whatever else occurs in it; so the filter can be read off the
text (`RuleRecord.admitsWeekday_iff`).
-/

namespace FlightRule

/-- The digit of a weekday, from 1 for Monday to 7 for Sunday. -/
def Weekday.digit (day : Weekday) : Char :=
  Nat.digitChar (day.index + 1)

theorem Weekday.toNat_digit (day : Weekday) : day.digit.toNat = 49 + day.index := by
  cases day <;> rfl

theorem Weekday.exists_index_eq {index : Nat} (small : index < 7) :
    ∃ day : Weekday, day.index = index := by
  have all : ∀ index < 7, ∃ day ∈ Weekday.all, day.index = index := by decide
  obtain ⟨day, _, index_eq⟩ := all index small
  exact ⟨day, index_eq⟩

theorem Weekday.index_inj {day other : Weekday} : day.index = other.index ↔ day = other := by
  constructor
  · cases day <;> cases other <;> first | exact fun _ => rfl | decide
  · exact congrArg index

namespace WeekdaySet

variable {c : Char} {day : Weekday} {days more : String}

/-! ## Digits -/

/-- A character is read as the weekday whose digit it is. -/
theorem ofDigit?_eq_some_iff : ofDigit? c = some day ↔ c = day.digit := by
  constructor
  · intro found
    unfold ofDigit? at found
    split at found <;> cases found <;> rfl
  · rintro rfl
    cases day <;> rfl

/-- The digits of weekdays are those from 1 to 7. -/
theorem exists_eq_digit_iff : (∃ day : Weekday, c = day.digit) ↔ '1' ≤ c ∧ c ≤ '7' := by
  have bounds_iff : '1' ≤ c ∧ c ≤ '7' ↔ 49 ≤ c.toNat ∧ c.toNat ≤ 55 := Iff.rfl
  rw [bounds_iff]
  constructor
  · rintro ⟨day, rfl⟩
    have small := day.index_lt
    rw [day.toNat_digit]
    omega
  · rintro ⟨atLeast, atMost⟩
    obtain ⟨day, index_eq⟩ := Weekday.exists_index_eq (by omega : c.toNat - 49 < 7)
    refine ⟨day, ?_⟩
    rw [← Char.toNat_inj, day.toNat_digit]
    omega

theorem ofDigit?_isNone : (ofDigit? c).isNone = !(decide ('1' ≤ c) && decide (c ≤ '7')) := by
  rw [← Option.not_isSome, Bool.eq_iff_iff, Bool.not_eq_true', Bool.not_eq_true',
    Bool.eq_false_iff, Bool.eq_false_iff, ne_eq, ne_eq, not_iff_not, Option.isSome_iff_exists,
    Bool.and_eq_true, decide_eq_true_eq, decide_eq_true_eq, ← exists_eq_digit_iff]
  simp only [ofDigit?_eq_some_iff]

/-! ## Bits -/

theorem toNat_bit (day : Weekday) : (bit day).toNat = 2 ^ day.index := by
  cases day <;> rfl

/-- A weekday is in a set when the bit at its index is set. -/
theorem contains_eq_testBit (mask : WeekdaySet) (day : Weekday) :
    mask.contains day = mask.bits.toNat.testBit day.index := by
  rw [contains, Bool.eq_iff_iff, bne_iff_ne, ne_eq, ← UInt8.toNat_inj, UInt8.toNat_and, toNat_bit,
    Nat.and_two_pow]
  cases mask.bits.toNat.testBit day.index <;> simp

/-- Collecting weekdays sets their bits and no others. -/
theorem testBit_foldl (collected : List Weekday) (bits : UInt8) (index : Nat) :
    (collected.foldl (fun bits day => bits ||| bit day) bits).toNat.testBit index =
      (bits.toNat.testBit index || collected.any (·.index == index)) := by
  induction collected generalizing bits with
  | nil => simp
  | cons day collected inductionHypothesis =>
      rw [List.foldl_cons, inductionHypothesis, UInt8.toNat_or, toNat_bit, Nat.testBit_or,
        Nat.testBit_two_pow, List.any_cons, Bool.or_assoc]
      rfl

/-- A bit is set when it is the one of a weekday whose digit occurs in the text. -/
theorem testBit_ofText_iff {index : Nat} :
    (ofText days).bits.toNat.testBit index = true ↔
      ∃ day : Weekday, day.index = index ∧ day.digit ∈ days.toList := by
  rw [ofText, testBit_foldl]
  simp only [UInt8.toNat_zero, Nat.zero_testBit, Bool.false_or, List.any_eq_true,
    List.mem_filterMap, ofDigit?_eq_some_iff, beq_iff_eq]
  constructor
  · rintro ⟨day, ⟨c, member, rfl⟩, index_eq⟩
    exact ⟨day, index_eq, member⟩
  · rintro ⟨day, index_eq, member⟩
    exact ⟨day, ⟨day.digit, member, rfl⟩, index_eq⟩

/-- Only the seven lowest bits are used. -/
theorem bits_ofText_lt (days : String) : (ofText days).bits < 128 := by
  rw [UInt8.lt_iff_toNat_lt]
  apply Nat.lt_pow_two_of_testBit (n := 7)
  intro index beyond
  rw [Bool.eq_false_iff, ne_eq, testBit_ofText_iff]
  rintro ⟨day, rfl, _⟩
  exact absurd day.index_lt (Nat.not_lt.2 beyond)

/-- A weekday is in the set of a text when its digit occurs in it. -/
theorem contains_ofText_iff : (ofText days).contains day = true ↔ day.digit ∈ days.toList := by
  rw [contains_eq_testBit, testBit_ofText_iff]
  simp only [Weekday.index_inj, exists_eq_left]

/-- A set is empty when no bit is set. -/
theorem isEmpty_iff {mask : WeekdaySet} :
    mask.isEmpty = true ↔ ∀ index, mask.bits.toNat.testBit index = false := by
  rw [isEmpty, beq_iff_eq, ← UInt8.toNat_inj]
  constructor
  · intro none index
    rw [none]
    exact Nat.zero_testBit index
  · exact Nat.zero_of_testBit_eq_false

/-- The set of a text is empty when no digit from 1 to 7 occurs in it. -/
theorem isEmpty_ofText_iff :
    (ofText days).isEmpty = true ↔ ∀ c ∈ days.toList, ¬('1' ≤ c ∧ c ≤ '7') := by
  simp only [isEmpty_iff, Bool.eq_false_iff, ne_eq, testBit_ofText_iff, ← exists_eq_digit_iff]
  constructor
  · rintro unset c member ⟨day, rfl⟩
    exact unset day.index ⟨day, rfl, member⟩
  · rintro absent index ⟨day, _, member⟩
    exact absent day.digit member ⟨day, rfl⟩

/-! ## Texts in two parts -/

/-- A text with more behind it has the weekdays of both. -/
theorem bits_ofText_append (days more : String) :
    (ofText (days ++ more)).bits = (ofText days).bits ||| (ofText more).bits := by
  rw [← UInt8.toNat_inj, UInt8.toNat_or]
  apply Nat.eq_of_testBit_eq
  intro index
  rw [Nat.testBit_or, Bool.eq_iff_iff, Bool.or_eq_true]
  simp only [testBit_ofText_iff, String.toList_append, List.mem_append, and_or_left, exists_or]

/-- A text with more behind it has the characters left over of both. -/
theorem strayChars_append (days more : String) :
    strayChars (days ++ more) = strayChars days ++ strayChars more := by
  rw [strayChars, String.toList_append, List.filter_append]
  rfl

theorem strayChars_eq (days : String) :
    strayChars days = days.toList.filter fun c =>
      !Text.isBlank c && !(decide ('1' ≤ c) && decide (c ≤ '7')) := by
  simp only [strayChars, ofDigit?_isNone]

end WeekdaySet

/-! ## The filter of a rule -/

namespace RuleRecord

variable {record : RuleRecord} {segment : Segment}

/-- A record admits a segment by its weekday when the digit occurs, unless none does. -/
theorem admitsWeekday_iff :
    record.AdmitsWeekday segment ↔
      segment.departure = none ∨
      (∃ departure ∈ segment.departure, departure.date.weekday.digit ∈ record.days.toList) ∨
      ∀ c ∈ record.days.toList, ¬('1' ≤ c ∧ c ≤ '7') := by
  rw [AdmitsWeekday, WeekdaySet.isEmpty_ofText_iff, Segment.weekday]
  cases segment.departure with
  | none => simp
  | some departure => simp [WeekdaySet.contains_ofText_iff, Timestamp.weekday, or_comm]

/-- A record has a filter for its weekdays unless it names none. -/
theorem days_mem_filters_iff {mask : WeekdaySet} :
    .days mask ∈ record.filters ↔
      mask = .ofText record.days ∧ (WeekdaySet.ofText record.days).isEmpty = false := by
  unfold filters
  by_cases noEquipment : Text.trim record.equipment = "" <;>
    cases noDays : (WeekdaySet.ofText record.days).isEmpty <;> simp [noEquipment, noDays]

/-- The filter on departures, if there is one, admits what the record admits. -/
theorem days_accept_iff :
    (∀ mask, .days mask ∈ record.filters → (SegmentFilter.days mask).accepts segment = true) ↔
      record.AdmitsWeekday segment := by
  simp only [days_mem_filters_iff, AdmitsWeekday]
  cases noDays : (WeekdaySet.ofText record.days).isEmpty with
  | true => simp
  | false => cases departs : segment.weekday <;> simp [SegmentFilter.accepts, departs]

theorem filters_of_demand
    {context : Context}
    {vendor : String}
    {requirement : Requirement}
    (demand_eq : (record.demand context vendor).1 = .requires requirement) :
    requirement.filters = record.filters := by
  have built := record.result_requirement_of_demand demand_eq
  rw [result_requirement] at built
  generalize (if record.application = .blank then Except.ok none
    else (record.criteria context vendor).result.map some) = attempt at built
  cases attempt with
  | error defect => cases built
  | ok criteria =>
      cases built
      rfl

end RuleRecord

/--
A text of weekdays sets the bits of the days whose digits occur in it, and no others; the characters
that are neither blank nor such a digit are kept apart.  A text in two parts sets the bits of both.
A compiled rule that requires something admits a segment by its weekday when the departure is not
known, when the digit of its date occurs in the record, or when no digit occurs there.
-/
theorem weekdays_of_digits (days more : String) :
    (WeekdaySet.ofText days).bits < 128 ∧
    (∀ digit, 1 ≤ digit → digit ≤ 7 →
      ((WeekdaySet.ofText days).bits.toNat.testBit (digit - 1) = true ↔
        Nat.digitChar digit ∈ days.toList)) ∧
    (WeekdaySet.strayChars days = days.toList.filter fun c =>
      !Text.isBlank c && !(decide ('1' ≤ c) && decide (c ≤ '7'))) ∧
    (WeekdaySet.ofText (days ++ more)).bits =
      (WeekdaySet.ofText days).bits ||| (WeekdaySet.ofText more).bits ∧
    WeekdaySet.strayChars (days ++ more) =
      WeekdaySet.strayChars days ++ WeekdaySet.strayChars more ∧
    ∀ (record : RuleRecord) (use : RuleUse) (vendor : String) (context : Context)
      (requirement : Requirement) (segment : Segment),
      (record.compile use vendor context).demand = .requires requirement →
      ((∀ mask, .days mask ∈ requirement.filters →
          (SegmentFilter.days mask).accepts segment = true) ↔
        segment.departure = none ∨
        (∃ departure ∈ segment.departure,
          departure.date.weekday.digit ∈ record.days.toList) ∨
        ∀ c ∈ record.days.toList, ¬('1' ≤ c ∧ c ≤ '7')) := by
  refine ⟨WeekdaySet.bits_ofText_lt days, fun digit positive atMost => ?_,
    WeekdaySet.strayChars_eq days, WeekdaySet.bits_ofText_append days more,
    WeekdaySet.strayChars_append days more, ?_⟩
  · obtain ⟨day, index_eq⟩ := Weekday.exists_index_eq (by omega : digit - 1 < 7)
    have digit_eq : digit = day.index + 1 := by omega
    rw [digit_eq, Nat.add_sub_cancel, ← WeekdaySet.contains_eq_testBit]
    exact WeekdaySet.contains_ofText_iff
  · intro record use vendor context requirement segment demand_eq
    rw [RuleRecord.filters_of_demand demand_eq, RuleRecord.days_accept_iff,
      RuleRecord.admitsWeekday_iff]

/-- A rule for Mondays and Sundays, with a character too many, rules out a departure on Tuesday. -/
theorem weekdays_of_monday_and_sunday :
    let record : RuleRecord := { vendor := "ATP", itemNo := 1, days := "17x 1" }
    let requirement : Requirement := { filters := [.days ⟨65⟩] }
    let tuesday : Date := ⟨2024, 6, 18, by decide, by decide, by decide⟩
    let segment : Segment :=
      { Segment.air "DL" 1 default default with departure := some ⟨tuesday, 9, 0, 0, 0⟩ }
    (record.compile .primary "ATP" {}).demand = .requires requirement ∧
      (WeekdaySet.ofText record.days).bits.toNat.testBit 6 = true ∧
      (WeekdaySet.ofText record.days).bits.toNat.testBit 1 = false ∧
      WeekdaySet.strayChars record.days = ['x'] ∧
      ¬ ∀ mask, .days mask ∈ requirement.filters →
        (SegmentFilter.days mask).accepts segment = true := by
  intro record requirement tuesday segment
  have demand_eq : (record.compile .primary "ATP" {}).demand = .requires requirement := by decide
  obtain ⟨_, testBit_iff, strayChars_eq, _, _, accepts_iff⟩ := weekdays_of_digits record.days ""
  refine ⟨demand_eq, ?_, ?_, ?_, ?_⟩
  · rw [testBit_iff 7 (by decide) (by decide)]
    decide
  · rw [Bool.eq_false_iff, ne_eq, testBit_iff 2 (by decide) (by decide)]
    decide
  · rw [strayChars_eq]
    decide
  · rw [accepts_iff record .primary "ATP" {} requirement segment demand_eq]
    rintro (unknown | ⟨departure, ⟨rfl⟩, occurs⟩ | absent)
    · cases unknown
    · exact absurd occurs (by decide)
    · exact absent '1' (by decide) (by decide)

end FlightRule
