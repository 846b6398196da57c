/-!
# Texts of rule fields

Codes are compared without regard to the case of the letters A to Z; every other character stands
for itself.  Fields are read without the blank characters at their two ends; `trim_trim` says that
what is left has none.  Bytes are written in hexadecimal digits.
-/

namespace FlightRule.Text

/-! ## Letter case -/

/-- The characters of a text with the capitals A to Z replaced by their small letters. -/
def folded (text : String) : List Char :=
  text.toList.map Char.toLower

/-- Two texts are alike when they differ at most in the case of the letters A to Z. -/
def alike (left right : String) : Bool :=
  folded left == folded right

theorem alike_iff {left right : String} :
    alike left right = true ↔ folded left = folded right := by
  simp [alike]

@[simp] theorem alike_refl (text : String) : alike text text = true := by
  simp [alike]

theorem alike_comm (left right : String) : alike left right = alike right left := by
  rw [Bool.eq_iff_iff, alike_iff, alike_iff]
  exact eq_comm

theorem alike_trans
    {first second third : String}
    (left : alike first second = true)
    (right : alike second third = true) :
    alike first third = true := by
  rw [alike_iff] at *
  exact left.trans right

/-! ## Blank characters -/

/-- The ranges of code points with the white-space property. -/
def blankRanges : List (Nat × Nat) := [
  (0x0009, 0x000d), (0x0020, 0x0020), (0x0085, 0x0085), (0x00a0, 0x00a0), (0x1680, 0x1680),
  (0x2000, 0x200a), (0x2028, 0x2029), (0x202f, 0x202f), (0x205f, 0x205f), (0x3000, 0x3000)]

/-- A character is blank exactly when it has the white-space property. -/
def isBlank (c : Char) : Bool :=
  blankRanges.any fun (first, last) => decide (first ≤ c.toNat) && decide (c.toNat ≤ last)

/-- The characters of a text from its first one that is not blank. -/
def dropBlanks (text : List Char) : List Char :=
  text.dropWhile isBlank

/-- The text without the blank characters at its two ends. -/
def trim (text : String) : String :=
  String.ofList (dropBlanks (dropBlanks text.toList).reverse).reverse

/-- What is left starts with a character that is not blank. -/
theorem isBlank_of_mem_head?_dropBlanks
    {text : List Char}
    {c : Char}
    (first : c ∈ (dropBlanks text).head?) :
    isBlank c = false := by
  have notBlank := List.head?_dropWhile_not isBlank text
  rw [dropBlanks, Option.mem_def] at first
  rwa [first] at notBlank

/-- A text that starts with a character that is not blank stays as it is. -/
theorem dropBlanks_of_head?
    {text : List Char}
    (notBlank : ∀ c ∈ text.head?, isBlank c = false) :
    dropBlanks text = text := by
  cases text with
  | nil => rfl
  | cons head tail => exact List.dropWhile_cons_of_neg (by simp [notBlank head rfl])

/--
Cutting blank characters twice cuts no more than cutting them once: what is left after the cut at
the end still starts as the text after the cut at the start.
-/
@[simp] theorem trim_trim (text : String) : trim (trim text) = trim text := by
  have endInk : dropBlanks (dropBlanks (dropBlanks text.toList).reverse) =
      dropBlanks (dropBlanks text.toList).reverse :=
    dropBlanks_of_head? fun c => isBlank_of_mem_head?_dropBlanks
  have startInk : dropBlanks (dropBlanks (dropBlanks text.toList).reverse).reverse =
      (dropBlanks (dropBlanks text.toList).reverse).reverse := by
    have startsSame : (dropBlanks (dropBlanks text.toList).reverse).reverse <+:
        dropBlanks text.toList := by
      rw [← List.reverse_suffix, List.reverse_reverse]
      exact List.dropWhile_suffix _
    obtain ⟨cut, whole⟩ := startsSame
    refine dropBlanks_of_head? fun c first => ?_
    have start : c ∈ (dropBlanks text.toList).head? := by
      rw [Option.mem_def] at first ⊢
      rw [← whole, List.head?_append, first, Option.some_or]
    exact isBlank_of_mem_head?_dropBlanks start
  rw [trim.eq_1 (trim text), trim.eq_1 text, String.toList_ofList, startInk, List.reverse_reverse,
    endInk]

/-! ## Hexadecimal digits -/

/-- A number below sixteen as a digit or a small letter. -/
def hexDigit (value : Nat) : Char :=
  if value < 10 then Char.ofNat ('0'.toNat + value) else Char.ofNat ('a'.toNat + (value - 10))

/-- The digits 0 to 9 and the letters A to F in either case. -/
def isHexDigit (c : Char) : Bool :=
  c.isDigit || (decide ('a' ≤ c) && decide (c ≤ 'f')) || (decide ('A' ≤ c) && decide (c ≤ 'F'))

/-- The value of a hexadecimal digit. -/
def hexValue (c : Char) : Nat :=
  if c.isDigit then c.toNat - '0'.toNat
  else if c ≤ 'F' then c.toNat - 'A'.toNat + 10
  else c.toNat - 'a'.toNat + 10

/-- A digit has the value that it was written for. -/
theorem hexValue_hexDigit
    {value : Nat}
    (small : value < 16) :
    hexValue (hexDigit value) = value := by
  have all : ∀ value ∈ List.range 16, hexValue (hexDigit value) = value := by decide
  exact all value (List.mem_range.2 small)

/-- Two digits for each byte. -/
def hexOfBytes (bytes : List UInt8) : String :=
  String.ofList (bytes.flatMap fun byte =>
    [hexDigit (byte.toNat / 16), hexDigit (byte.toNat % 16)])

end FlightRule.Text
