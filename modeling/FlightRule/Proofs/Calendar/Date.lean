import FlightRule.Calendar.Date

/-!
# Consecutive days

Every date but the last has a next one (`Date.next?_eq_none_iff`), which is in the same month, on
the first of the next month or on New Year's Day.  Its number of days from the first day of year one
is one more (`Date.daysFromYearOne_of_next?`), so that consecutive days have consecutive weekdays
(`Date.weekday_of_next?`).
-/

namespace FlightRule

/-! ## Days of the week -/

namespace Weekday

/-- The day after another one. -/
def next : Weekday → Weekday
  | monday => tuesday
  | tuesday => wednesday
  | wednesday => thursday
  | thursday => friday
  | friday => saturday
  | saturday => sunday
  | sunday => monday

/-- The index of a day is what remains of its number of days. -/
theorem index_ofDays (days : Int) : ((ofDays days).index : Int) = days % 7 := by
  have remainders : days % 7 = 0 ∨ days % 7 = 1 ∨ days % 7 = 2 ∨ days % 7 = 3 ∨ days % 7 = 4 ∨
      days % 7 = 5 ∨ days % 7 = 6 := by omega
  rcases remainders with same | same | same | same | same | same | same <;>
    simp [ofDays, same, index]

/-- One day later it is the next day. -/
theorem ofDays_add_one (days : Int) : ofDays (days + 1) = (ofDays days).next := by
  have index_eq := index_ofDays days
  have nextIndex_eq := index_ofDays (days + 1)
  cases today : ofDays days <;> cases tomorrow : ofDays (days + 1) <;>
    simp only [today, tomorrow, index] at index_eq nextIndex_eq <;> first | rfl | omega

end Weekday

/-! ## Dates one after the other -/

namespace Date

variable {date other : Date} {year : Int} {month day : Nat}

theorem ofParts?_eq_some_iff :
    ofParts? year month day = some date ↔
      date.year = year ∧ date.month = month ∧ date.day = day := by
  unfold ofParts?
  constructor
  · intro found
    split at found
    · cases found
      exact ⟨rfl, rfl, rfl⟩
    · cases found
  · rintro ⟨rfl, rfl, rfl⟩
    rw [dif_pos ⟨date.year_valid, date.day_pos, date.day_le⟩]

theorem ofParts?_eq_none_iff :
    ofParts? year month day = none ↔
      (isYear year = true → 1 ≤ day → daysInMonth year month < day) := by
  simp [ofParts?]

/-- The date of the next day, unless that is in a year that dates do not have. -/
def next? (date : Date) : Option Date :=
  (ofParts? date.year date.month (date.day + 1)).or <|
    (ofParts? date.year (date.month + 1) 1).or (ofParts? (date.year + 1) 1 1)

/-- The months are numbered from 1 to 12. -/
theorem daysInMonth_pos_iff : 0 < daysInMonth year month ↔ 1 ≤ month ∧ month ≤ 12 := by
  fun_cases daysInMonth year month <;> grind

/-- There is no later date in the year of a date exactly when that is the 31st of December. -/
theorem last_of_year_iff :
    ofParts? date.year date.month (date.day + 1) = none ∧
        ofParts? date.year (date.month + 1) 1 = none ↔
      date.month = 12 ∧ date.day = 31 := by
  have day_pos := date.day_pos
  have day_le := date.day_le
  constructor
  · rintro ⟨lastOfMonth, lastMonth⟩
    have noLaterDay : daysInMonth date.year date.month < date.day + 1 :=
      ofParts?_eq_none_iff.1 lastOfMonth date.year_valid (by omega)
    have noLaterMonth : daysInMonth date.year (date.month + 1) < 1 :=
      ofParts?_eq_none_iff.1 lastMonth date.year_valid (Nat.le_refl 1)
    have hasDays := daysInMonth_pos_iff.1 (Nat.lt_of_lt_of_le day_pos day_le)
    have hasNoDays : ¬(1 ≤ date.month + 1 ∧ date.month + 1 ≤ 12) := by
      rw [← @daysInMonth_pos_iff date.year]
      omega
    have december : date.month = 12 := by omega
    have daysInDecember : daysInMonth date.year 12 = 31 := rfl
    rw [december, daysInDecember] at day_le noLaterDay
    exact ⟨december, by omega⟩
  · rintro ⟨december, last⟩
    rw [december, last]
    exact ⟨ofParts?_eq_none_iff.2 fun _ _ => Nat.lt_succ_self 31,
      ofParts?_eq_none_iff.2 fun _ _ => Nat.zero_lt_one⟩

/-- Every date has a next one, except the last of the last year. -/
theorem next?_eq_none_iff :
    date.next? = none ↔ date.year = 262142 ∧ date.month = 12 ∧ date.day = 31 := by
  have lastYear : ofParts? (date.year + 1) 1 1 = none ↔ date.year = 262142 := by
    have year_valid := date.year_valid
    have daysInJanuary : daysInMonth (date.year + 1) 1 = 31 := rfl
    rw [ofParts?_eq_none_iff, daysInJanuary]
    simp only [isYear, Bool.and_eq_true, decide_eq_true_eq] at year_valid ⊢
    omega
  rw [next?, Option.or_eq_none_iff, Option.or_eq_none_iff, ← and_assoc, last_of_year_iff, lastYear,
    and_comm]

/-- The number of days of a year. -/
def daysInYear (year : Int) : Nat :=
  if isLeap year then 366 else 365

/-- The months of a year have its days. -/
theorem daysBeforeMonth_end (year : Int) : daysBeforeMonth year 13 = daysInYear year := by
  simp only [daysBeforeMonth, daysInMonth, daysInYear]
  cases isLeap year <;> rfl

/-- The number of days from the first day of year one to the first day of a year. -/
def daysBeforeYear (year : Int) : Int :=
  (year - 1) * 365 + (year - 1) / 4 - (year - 1) / 100 + (year - 1) / 400

/-- A leap year counts one more of the fourth years that are no centuries, or one more century. -/
theorem daysBeforeYear_add_one (year : Int) :
    daysBeforeYear (year + 1) = daysBeforeYear year + daysInYear year := by
  unfold daysBeforeYear daysInYear isLeap
  split
  next leap =>
    simp only [Bool.and_eq_true, beq_iff_eq, Bool.or_eq_true, bne_iff_ne] at leap
    omega
  next common =>
    simp only [Bool.and_eq_true, beq_iff_eq, Bool.or_eq_true, bne_iff_ne] at common
    omega

/-- The days from the first day of year one are those of the years, the months and the days. -/
theorem daysFromYearOne_eq (date : Date) :
    date.daysFromYearOne =
      daysBeforeYear date.year + (daysBeforeMonth date.year date.month + (date.day - 1) : Nat) :=
  rfl

/-- The next day is one day further from the first day of year one. -/
theorem daysFromYearOne_of_next? (next : date.next? = some other) :
    other.daysFromYearOne = date.daysFromYearOne + 1 := by
  have day_pos := date.day_pos
  have day_le := date.day_le
  rw [daysFromYearOne_eq, daysFromYearOne_eq]
  rcases Option.or_eq_some_iff.1 next with sameMonth | ⟨notSameMonth, later⟩
  · obtain ⟨year_eq, month_eq, day_eq⟩ := ofParts?_eq_some_iff.1 sameMonth
    rw [year_eq, month_eq, day_eq]
    omega
  · have lastDay : daysInMonth date.year date.month < date.day + 1 :=
      ofParts?_eq_none_iff.1 notSameMonth date.year_valid (by omega)
    rcases Option.or_eq_some_iff.1 later with sameYear | ⟨notSameYear, nextYear⟩
    · obtain ⟨year_eq, month_eq, day_eq⟩ := ofParts?_eq_some_iff.1 sameYear
      rw [year_eq, month_eq, day_eq, daysBeforeMonth]
      omega
    · obtain ⟨year_eq, month_eq, day_eq⟩ := ofParts?_eq_some_iff.1 nextYear
      obtain ⟨december, last⟩ := last_of_year_iff.1 ⟨notSameMonth, notSameYear⟩
      have yearStarts : daysBeforeMonth (date.year + 1) 1 = 0 := rfl
      have yearEnds := daysBeforeMonth_end date.year
      rw [daysBeforeMonth, show daysInMonth date.year 12 = 31 from rfl] at yearEnds
      rw [year_eq, month_eq, day_eq, december, last, daysBeforeYear_add_one, yearStarts, ← yearEnds]
      omega

/-- Consecutive days have consecutive weekdays. -/
theorem weekday_of_next? (next : date.next? = some other) :
    other.weekday = date.weekday.next := by
  rw [weekday, daysFromYearOne_of_next? next, Weekday.ofDays_add_one, weekday]

/-- A known Thursday, at the end of a February with 29 days. -/
example : (ofParts? 2024 2 29).map weekday = some .thursday := by
  decide

end Date

end FlightRule
