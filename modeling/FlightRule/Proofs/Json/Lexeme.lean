import FlightRule.Json.Token
import Mathlib.Data.List.Basic

/-!
# Lexemes that are written

The lexeme of an integer or a text is scanned as a whole from whatever text it stands in
(`Number.isLexeme_ofInt`, `Literal.isLexeme_encode`), and it denotes what it was written for
(`Number.toInt?_ofInt`, `Literal.decode_encode`).
-/

namespace FlightRule.Json

/-! ## Numbers -/

namespace Number

/-- The text does not start with a character that a number before it would go on with. -/
def EndsBefore (rest : List Char) : Prop :=
  ∀ c ∈ rest.head?, c.isDigit = false ∧ c ≠ '.' ∧ c ≠ 'e' ∧ c ≠ 'E'

/-- Scanning takes the whole lexeme and nothing behind it. -/
def IsLexeme (lexeme : List Char) : Prop :=
  ∀ rest, EndsBefore rest → scan (lexeme ++ rest) = some (lexeme, rest)

theorem isDigit_of_mem_toDigits (number : Nat) :
    ∀ c ∈ Nat.toDigits 10 number, c.isDigit = true := by
  induction number using Nat.strongRecOn with
  | _ number inductionHypothesis =>
      rw [Nat.toDigits_eq_if (by decide)]
      split
      next small => simpa [Nat.isDigit_digitChar] using small
      next large =>
        intro c member
        rcases List.mem_append.1 member with inFront | isLast
        · exact inductionHypothesis (number / 10) (by omega) c inFront
        · obtain rfl := List.mem_singleton.1 isLast
          simpa [Nat.isDigit_digitChar] using Nat.mod_lt number (by decide : 0 < 10)

/-- No digits of a number start with a zero, except for the digits of zero itself. -/
theorem head?_toDigits {number : Nat} (positive : 0 < number) :
    (Nat.toDigits 10 number).head? ≠ some '0' := by
  induction number using Nat.strongRecOn with
  | _ number inductionHypothesis =>
      rw [Nat.toDigits_eq_if (by decide)]
      split
      next small =>
        rw [List.head?_cons, ne_eq, Option.some.injEq, Nat.digitChar_eq_zero]
        omega
      next large =>
        rw [List.head?_append_of_ne_nil _ Nat.toDigits_ne_nil]
        exact inductionHypothesis (number / 10) (by omega) (by omega)

variable {rest : List Char}

theorem scanDigits_append
    {digits : List Char}
    (allDigits : ∀ c ∈ digits, c.isDigit = true)
    (ends : EndsBefore rest) :
    scanDigits (digits ++ rest) = (digits, rest) := by
  have noneBehind : ∀ c ∈ rest.head?, ¬c.isDigit = true := fun c first => by
    simp [(ends c first).1]
  rw [scanDigits, List.takeWhile_append_of_pos allDigits, List.dropWhile_append_of_pos allDigits]
  cases rest with
  | nil => simp
  | cons c rest => simp [noneBehind c rfl]

theorem scanInteger_toDigits (number : Nat) (ends : EndsBefore rest) :
    scanInteger (Nat.toDigits 10 number ++ rest) = some (Nat.toDigits 10 number, rest) := by
  have scanned := scanDigits_append (isDigit_of_mem_toDigits number) ends
  have nonempty : Nat.toDigits 10 number ≠ [] := Nat.toDigits_ne_nil
  unfold scanInteger
  split
  next startsWithZero =>
    rcases Nat.eq_zero_or_pos number with rfl | positive
    · simpa using startsWithZero.symm
    · have starts := congrArg List.head? startsWithZero
      rw [List.head?_append_of_ne_nil _ nonempty] at starts
      exact absurd starts (head?_toDigits positive)
  next =>
    rw [scanned]
    cases digits : Nat.toDigits 10 number with
    | nil => exact absurd digits nonempty
    | cons => rfl

theorem scanFraction_of_endsBefore (ends : EndsBefore rest) :
    scanFraction rest = some ([], rest) := by
  unfold scanFraction
  split
  · exact absurd rfl (ends '.' rfl).2.1
  · rfl

theorem scanExponent_of_endsBefore (ends : EndsBefore rest) :
    scanExponent rest = some ([], rest) := by
  unfold scanExponent
  split
  · rfl
  · rw [if_neg (not_or.2 (ends _ rfl).2.2)]

theorem scanMinus_toDigits (number : Nat) (rest : List Char) :
    scanMinus (Nat.toDigits 10 number ++ rest) = ([], Nat.toDigits 10 number ++ rest) := by
  unfold scanMinus
  split
  next minus =>
    have starts := congrArg List.head? minus
    rw [List.head?_append_of_ne_nil _ Nat.toDigits_ne_nil, List.head?_cons] at starts
    exact absurd (isDigit_of_mem_toDigits number '-' (List.mem_of_mem_head? starts)) (by decide)
  · rfl

/-- The lexeme of an integer is scanned as it was written. -/
theorem isLexeme_ofInt (value : Int) : IsLexeme (ofInt value) := by
  intro rest ends
  have integer := scanInteger_toDigits value.natAbs ends
  have noMinus := scanMinus_toDigits value.natAbs rest
  unfold ofInt
  split
  · simp [scan, scanMinus, integer, scanFraction_of_endsBefore ends,
      scanExponent_of_endsBefore ends]
  · simp [scan, noMinus, integer, scanFraction_of_endsBefore ends,
      scanExponent_of_endsBefore ends]

/-- The lexeme of an integer denotes it. -/
@[simp] theorem toInt?_ofInt (value : Int) : toInt? (ofInt value) = some value := by
  have allDigits : (Nat.toDigits 10 value.natAbs).all Char.isDigit = true :=
    List.all_eq_true.2 (isDigit_of_mem_toDigits value.natAbs)
  unfold ofInt
  split
  next negative =>
    have nonzero : value.natAbs ≠ 0 := by omega
    simp only [toInt?, allDigits, Nat.ofDigitChars_ten_toDigits, Bool.true_and, bne_iff_ne, ne_eq,
      nonzero, not_false_eq_true, if_true, Option.some.injEq]
    omega
  next positive =>
    unfold toInt?
    split
    next minus =>
      exact absurd (isDigit_of_mem_toDigits value.natAbs '-' (by simp [minus])) (by decide)
    next =>
      simp only [allDigits, Nat.ofDigitChars_ten_toDigits, if_true, Option.some.injEq]
      omega

/-- A number starts with a minus sign or a digit. -/
theorem scan_eq_none
    {first : Char}
    (notMinus : first ≠ '-')
    (notDigit : first.isDigit = false) :
    scan (first :: rest) = none := by
  have notZero : first ≠ '0' := by
    rintro rfl
    exact absurd notDigit (by decide)
  simp [scan, scanMinus, scanInteger, scanDigits, notMinus, notDigit, notZero]

/-- The lexeme of a number starts with a minus sign or a digit. -/
theorem IsLexeme.exists_cons {lexeme : List Char} (isLexeme : IsLexeme lexeme) :
    ∃ first tail, lexeme = first :: tail ∧ (first = '-' ∨ first.isDigit = true) := by
  have scanned := isLexeme [] (by simp [EndsBefore])
  cases lexeme with
  | nil => exact absurd rfl (scan_eq_some scanned).1
  | cons first tail =>
      refine ⟨first, tail, rfl, ?_⟩
      by_contra neither
      obtain ⟨notMinus, notDigit⟩ := not_or.1 neither
      rw [List.cons_append, scan_eq_none notMinus (by simpa using notDigit)] at scanned
      contradiction

end Number

/-! ## String literals -/

namespace Literal

open Text (hexDigit hexValue isHexDigit)

/-- Scanning takes the whole lexeme up to the quotation mark behind it. -/
def IsLexeme (lexeme : List Char) : Prop :=
  ∀ rest, scan (lexeme ++ '"' :: rest) = some (lexeme, rest)

/-- A character is written by a short escape, by its code, or as itself. -/
theorem escapeChar_cases (c : Char) :
    (∃ escape, escapeChar c = ['\\', escape] ∧ unescape? escape = some c ∧ escape ≠ 'u') ∨
      (c.toNat < 0x20 ∧
        escapeChar c =
          ['\\', 'u', '0', '0', hexDigit (c.toNat / 16), hexDigit (c.toNat % 16)]) ∨
      (0x20 ≤ c.toNat ∧ c ≠ '"' ∧ c ≠ '\\' ∧ escapeChar c = [c]) := by
  unfold escapeChar
  split
  iterate 7 exact .inl ⟨_, rfl, rfl, by decide⟩
  next notQuote notBackslash _ _ _ _ _ =>
    split
    next control => exact .inr (.inl ⟨control, rfl⟩)
    next printable => exact .inr (.inr ⟨by omega, notQuote, notBackslash, rfl⟩)

theorem isHexDigit_hexDigit {value : Nat} (small : value < 16) :
    isHexDigit (hexDigit value) = true := by
  have all : ∀ value ∈ List.range 16, isHexDigit (hexDigit value) = true := by decide
  exact all value (List.mem_range.2 small)

/-- An escaped character is read as a part of the string. -/
theorem scan_escapeChar (c : Char) (text : List Char) :
    scan (escapeChar c ++ text) =
      (scan text).map fun (lexeme, rest) => (escapeChar c ++ lexeme, rest) := by
  rcases escapeChar_cases c with
    ⟨escape, written, denotes, notCode⟩ | ⟨control, written⟩ |
      ⟨printable, notQuote, notBackslash, written⟩
  · rw [written, List.cons_append, List.cons_append, List.nil_append, scan]
    · simp [denotes]
    · exact fun _ _ _ _ _ code _ => notCode code
  · have high : isHexDigit (hexDigit (c.toNat / 16)) = true := isHexDigit_hexDigit (by omega)
    have low : isHexDigit (hexDigit (c.toNat % 16)) = true := isHexDigit_hexDigit (by omega)
    have zero : isHexDigit '0' = true := by decide
    simp [written, scan, zero, high, low]
  · rw [written, List.cons_append, List.nil_append, scan]
    · simp [notBackslash, Nat.not_lt.2 printable]
    · exact notQuote
    · exact fun _ _ _ _ _ backslash => absurd backslash notBackslash
    · exact fun _ _ backslash => absurd backslash notBackslash

/-- The lexeme of a text is scanned as it was written. -/
theorem isLexeme_encode (text : String) : IsLexeme (encode text) := by
  intro rest
  unfold encode
  induction text.toList with
  | nil => rfl
  | cons c text inductionHypothesis =>
      rw [List.flatMap_cons, List.append_assoc, scan_escapeChar, inductionHypothesis]
      rfl

theorem escapeChar_of_isDigit {c : Char} (digit : c.isDigit = true) : escapeChar c = [c] := by
  obtain ⟨low, high⟩ : 48 ≤ c.toNat ∧ c.toNat ≤ 57 := by
    simpa [Char.isDigit, UInt32.le_iff_toNat_le] using digit
  rcases escapeChar_cases c with ⟨escape, _, denotes, _⟩ | ⟨control, _⟩ | ⟨_, _, _, written⟩
  · unfold unescape? at denotes
    split at denotes <;> cases denotes <;> contradiction
  · omega
  · exact written

/-- The lexeme of a natural number may stand between quotation marks. -/
theorem isLexeme_toDigits (number : Nat) : IsLexeme (Nat.toDigits 10 number) := by
  have asWritten (digits : List Char) (allDigits : ∀ c ∈ digits, c.isDigit = true) :
      digits.flatMap escapeChar = digits := by
    induction digits with
    | nil => rfl
    | cons c digits inductionHypothesis =>
        obtain ⟨digit, restDigits⟩ := List.forall_mem_cons.1 allDigits
        rw [List.flatMap_cons, escapeChar_of_isDigit digit, inductionHypothesis restDigits,
          List.singleton_append]
  have isLexeme := isLexeme_encode (String.ofList (Nat.toDigits 10 number))
  rwa [encode, String.toList_ofList, asWritten _ (Number.isDigit_of_mem_toDigits number)]
    at isLexeme

/-- An escaped character denotes the character. -/
theorem joinPieces_pieces_escapeChar (c : Char) (text : List Char) :
    joinPieces (pieces (escapeChar c ++ text)) = (joinPieces (pieces text)).map (c :: ·) := by
  rcases escapeChar_cases c with
    ⟨escape, written, denotes, notCode⟩ | ⟨control, written⟩ | ⟨_, _, notBackslash, written⟩
  · rw [written, List.cons_append, List.cons_append, List.nil_append, pieces, joinPieces, denotes,
      Option.getD_some]
    exact fun _ _ _ _ _ code _ => notCode code
  · have high : hexValue (hexDigit (c.toNat / 16)) = c.toNat / 16 :=
      Text.hexValue_hexDigit (by omega)
    have low : hexValue (hexDigit (c.toNat % 16)) = c.toNat % 16 :=
      Text.hexValue_hexDigit (by omega)
    have zero : hexValue '0' = 0 := by decide
    have code : c.toNat / 16 * 16 + c.toNat % 16 = c.toNat := by omega
    have notHigh : isHighSurrogate c.toNat = false := by
      simp [isHighSurrogate, show ¬0xD800 ≤ c.toNat by omega]
    have notLow : isLowSurrogate c.toNat = false := by
      simp [isLowSurrogate, show ¬0xDC00 ≤ c.toNat by omega]
    have piece :
        pieces (escapeChar c ++ text) = .unit c.toNat :: pieces text := by
      simp [written, pieces, zero, high, low, code]
    rw [piece, joinPieces.eq_def]
    simp only [notHigh, notLow, Bool.false_eq_true, if_false, Char.ofNat_toNat]
  · rw [written, List.cons_append, List.nil_append, pieces, joinPieces]
    · exact fun _ _ _ _ _ backslash => absurd backslash notBackslash
    · exact fun _ _ backslash => absurd backslash notBackslash

/-- The lexeme of a text denotes it. -/
@[simp] theorem decode_encode (text : String) : decode (encode text) = some text := by
  have joined (cs : List Char) : joinPieces (pieces (cs.flatMap escapeChar)) = some cs := by
    induction cs with
    | nil => rfl
    | cons c cs inductionHypothesis =>
        rw [List.flatMap_cons, joinPieces_pieces_escapeChar, inductionHypothesis]
        rfl
  rw [decode, encode, joined, Option.map_some, String.ofList_toList]

end Literal

end FlightRule.Json
