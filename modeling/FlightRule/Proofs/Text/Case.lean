import Mathlib
import FlightRule.Text.Basic
import FlightRule.Text.Upper

/-!
# Texts in small letters

Two texts are alike when they become one text in small letters (`lower_eq_lower_iff`).  A capital
and its small letter have the same upper-case form, and neither of them is blank.  So the other
normal forms of codes do not tell texts that are alike from one another: neither `upper_lower` nor
`trim_lower` does.
-/

namespace FlightRule.Text

/-- The text with the capitals A to Z replaced by their small letters. -/
def lower (text : String) : String :=
  String.ofList (folded text)

@[simp] theorem toList_lower (text : String) :
    (lower text).toList = text.toList.map Char.toLower := by
  rw [lower, String.toList_ofList, folded]

@[simp] theorem folded_lower (text : String) : folded (lower text) = folded text := by
  rw [folded, folded, toList_lower, List.map_map]
  exact List.map_congr_left fun c _ => c.toLower_toLower_eq_toLower

@[simp] theorem alike_lower_left (left right : String) :
    alike (lower left) right = alike left right := by
  rw [alike, alike, folded_lower]

@[simp] theorem alike_lower_right (left right : String) :
    alike left (lower right) = alike left right := by
  rw [alike, alike, folded_lower]

/-- Texts are alike when they become the same in small letters. -/
theorem lower_eq_lower_iff {left right : String} :
    lower left = lower right ↔ alike left right = true := by
  rw [alike_iff, lower, lower, String.ofList_inj]

@[simp] theorem lower_eq_empty_iff {text : String} : lower text = "" ↔ text = "" := by
  rw [← String.toList_inj, toList_lower, ← String.toList_inj]
  exact List.map_eq_nil_iff

/-! ## Upper case -/

/-- The capitals A to Z and their small letters are among the characters up to U+007F. -/
theorem toNat_of_isUpper {c : Char} (capital : c.isUpper = true) :
    65 ≤ c.toNat ∧ c.toNat ≤ 90 ∧ c.toLower.toNat = c.toNat + 32 := by
  have bounds : 65 ≤ c.toNat ∧ c.toNat ≤ 90 := by
    simpa [Char.isUpper, UInt32.le_iff_toNat_le] using capital
  refine ⟨bounds.1, bounds.2, ?_⟩
  have valid : (c.toNat + 32).isValidChar := .inl (by omega)
  rw [Char.toLower_eq_of_isUpper capital, Char.toNat_ofNat, if_pos valid]

/-- A small letter has the same upper-case form as its capital. -/
theorem upperForm_toLower (c : Char) : upperForm c.toLower = upperForm c := by
  by_cases capital : c.isUpper = true
  · obtain ⟨_, atMost, small⟩ := toNat_of_isUpper capital
    rw [upperForm_of_lt (by omega), upperForm_of_lt (by omega), c.toUpper_toLower_eq_toUpper]
  · rw [Char.toLower_eq_of_not_isUpper capital]

/-- A text in small letters is the same in upper case. -/
@[simp] theorem upper_lower (text : String) : upper (lower text) = upper text := by
  simp only [upper, toList_lower, List.flatMap_map, upperForm_toLower]

/-- Texts that are alike have the same upper-case form. -/
theorem upper_eq_of_alike {left right : String} (same : alike left right = true) :
    upper left = upper right := by
  rw [← upper_lower left, lower_eq_lower_iff.2 same, upper_lower]

/-! ## Blank characters -/

@[simp] theorem isBlank_toLower (c : Char) : isBlank c.toLower = isBlank c := by
  by_cases capital : c.isUpper = true
  · obtain ⟨atLeast, atMost, small⟩ := toNat_of_isUpper capital
    rw [Bool.eq_iff_iff]
    simp only [isBlank, blankRanges, List.any_cons, List.any_nil, Bool.or_eq_true,
      Bool.and_eq_true, decide_eq_true_eq, Bool.or_false]
    omega
  · rw [Char.toLower_eq_of_not_isUpper capital]

theorem dropBlanks_map_toLower (text : List Char) :
    dropBlanks (text.map Char.toLower) = (dropBlanks text).map Char.toLower := by
  rw [dropBlanks, dropBlanks, List.dropWhile_map]
  simp only [Function.comp_def, isBlank_toLower]

/-- A text in small letters loses the same blanks. -/
@[simp] theorem trim_lower (text : String) : trim (lower text) = lower (trim text) := by
  rw [trim, toList_lower, dropBlanks_map_toLower, ← List.map_reverse, dropBlanks_map_toLower,
    ← List.map_reverse, lower, folded, trim, String.toList_ofList]

end FlightRule.Text
