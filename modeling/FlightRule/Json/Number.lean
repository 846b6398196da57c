/-!
# JSON numbers

A number is kept as its lexeme, the characters it was written with, because a number with a
fraction or an exponent is never an integer, whatever its value.  `scan_eq_some` says that
scanning a lexeme loses nothing of the text.
-/

namespace FlightRule.Json.Number

/-- The longest run of digits at the start of a text, and what follows it. -/
def scanDigits (text : List Char) : List Char × List Char :=
  (text.takeWhile Char.isDigit, text.dropWhile Char.isDigit)

/-- A minus sign, if the text starts with one. -/
def scanMinus : List Char → List Char × List Char
  | '-' :: rest => (['-'], rest)
  | text => ([], text)

/-- The integer part of a number: a zero alone, or digits that do not start with zero. -/
def scanInteger : List Char → Option (List Char × List Char)
  | '0' :: rest => some (['0'], rest)
  | text =>
    match scanDigits text with
    | ([], _) => none
    | (digits, rest) => some (digits, rest)

/-- The fraction of a number: nothing, or a point with at least one digit. -/
def scanFraction : List Char → Option (List Char × List Char)
  | '.' :: text =>
    match scanDigits text with
    | ([], _) => none
    | (digits, rest) => some ('.' :: digits, rest)
  | text => some ([], text)

/-- The sign of an exponent, if there is one. -/
def scanSign : List Char → List Char × List Char
  | '+' :: rest => (['+'], rest)
  | text => scanMinus text

/-- The exponent of a number: nothing, or the letter E, a sign if any, and at least one digit. -/
def scanExponent : List Char → Option (List Char × List Char)
  | [] => some ([], [])
  | letter :: text =>
    if letter = 'e' ∨ letter = 'E' then
      match scanDigits (scanSign text).2 with
      | ([], _) => none
      | (digits, rest) => some (letter :: (scanSign text).1 ++ digits, rest)
    else some ([], letter :: text)

/-- The number at the start of a text and what follows it. -/
def scan (text : List Char) : Option (List Char × List Char) := do
  let (minus, text) := scanMinus text
  let (integer, text) ← scanInteger text
  let (fraction, text) ← scanFraction text
  let (exponent, text) ← scanExponent text
  return (minus ++ integer ++ fraction ++ exponent, text)

/-- The integer that a lexeme without fraction and exponent denotes; minus zero is no integer. -/
def toInt? : List Char → Option Int
  | '-' :: digits =>
    if digits.all Char.isDigit && Nat.ofDigitChars 10 digits 0 != 0 then
      some (-(Nat.ofDigitChars 10 digits 0 : Int))
    else none
  | digits =>
    if digits.all Char.isDigit then some (Nat.ofDigitChars 10 digits 0 : Int) else none

/-- The lexeme of an integer. -/
def ofInt (value : Int) : List Char :=
  if value < 0 then '-' :: Nat.toDigits 10 value.natAbs else Nat.toDigits 10 value.natAbs

theorem scanMinus_append (text : List Char) :
    (scanMinus text).1 ++ (scanMinus text).2 = text := by
  unfold scanMinus
  split <;> rfl

theorem scanSign_append (text : List Char) :
    (scanSign text).1 ++ (scanSign text).2 = text := by
  unfold scanSign
  split
  · rfl
  · exact scanMinus_append _

theorem scanInteger_eq_some
    {text lexeme rest : List Char}
    (scanned : scanInteger text = some (lexeme, rest)) :
    lexeme ≠ [] ∧ lexeme ++ rest = text := by
  unfold scanInteger scanDigits at scanned
  split at scanned
  · cases scanned
    simp
  · split at scanned
    · contradiction
    · next digits tail nonempty digits_eq =>
      cases scanned
      simp only [Prod.mk.injEq] at digits_eq
      refine ⟨nonempty, ?_⟩
      rw [← digits_eq.1, ← digits_eq.2, List.takeWhile_append_dropWhile]

theorem scanFraction_eq_some
    {text lexeme rest : List Char}
    (scanned : scanFraction text = some (lexeme, rest)) :
    lexeme ++ rest = text := by
  unfold scanFraction scanDigits at scanned
  split at scanned
  · split at scanned
    · contradiction
    · next digits_eq =>
      cases scanned
      simp only [Prod.mk.injEq] at digits_eq
      rw [List.cons_append, ← digits_eq.1, ← digits_eq.2, List.takeWhile_append_dropWhile]
  · cases scanned
    rfl

theorem scanExponent_eq_some
    {text lexeme rest : List Char}
    (scanned : scanExponent text = some (lexeme, rest)) :
    lexeme ++ rest = text := by
  unfold scanExponent scanDigits at scanned
  split at scanned
  · cases scanned
    rfl
  · next letter tail =>
    split at scanned
    · split at scanned
      · contradiction
      · next digits_eq =>
        cases scanned
        simp only [Prod.mk.injEq] at digits_eq
        rw [List.cons_append, List.cons_append, List.append_assoc, ← digits_eq.1, ← digits_eq.2,
          List.takeWhile_append_dropWhile, scanSign_append]
    · cases scanned
      rfl

/-- A scanned lexeme is not empty, and with the rest it makes up the text. -/
theorem scan_eq_some
    {text lexeme rest : List Char}
    (scanned : scan text = some (lexeme, rest)) :
    lexeme ≠ [] ∧ lexeme ++ rest = text := by
  simp only [scan, Option.bind_eq_bind, Option.bind_eq_some_iff, Prod.exists, Option.pure_def,
    Option.some.injEq, Prod.mk.injEq] at scanned
  obtain ⟨integer, afterInteger, integer_eq, fraction, afterFraction, fraction_eq, exponent,
    afterExponent, exponent_eq, rfl, rfl⟩ := scanned
  obtain ⟨nonempty, integer_append⟩ := scanInteger_eq_some integer_eq
  constructor
  · simp [nonempty]
  · rw [List.append_assoc, List.append_assoc, List.append_assoc,
      scanExponent_eq_some exponent_eq, scanFraction_eq_some fraction_eq, integer_append,
      scanMinus_append]

end FlightRule.Json.Number
