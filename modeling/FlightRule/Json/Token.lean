import FlightRule.Json.Number
import FlightRule.Json.Literal

/-!
# JSON tokens

A JSON text is a sequence of tokens with blanks between them.  `ofText?` reads the tokens of a
text, and `chars` gives the characters that a token is written with.
-/

namespace FlightRule.Json

/-- A token of JSON text; numbers and string literals are kept as lexemes. -/
inductive Token where
  | openArray
  | closeArray
  | openObject
  | closeObject
  | colon
  | comma
  | null
  | bool (value : Bool)
  | number (lexeme : List Char)
  | string (lexeme : List Char)
deriving DecidableEq, Repr

namespace Token

/-- The characters of a token. -/
def chars : Token → List Char
  | openArray => ['[']
  | closeArray => [']']
  | openObject => ['\x7b']
  | closeObject => ['\x7d']
  | colon => [':']
  | comma => [',']
  | null => ['n', 'u', 'l', 'l']
  | bool true => ['t', 'r', 'u', 'e']
  | bool false => ['f', 'a', 'l', 's', 'e']
  | number lexeme => lexeme
  | string lexeme => '"' :: lexeme ++ ['"']

/-- The four characters that may stand between tokens. -/
def isSpace (c : Char) : Bool :=
  c == ' ' || c == '\t' || c == '\n' || c == '\r'

/-- What follows the given letters, if the text starts with them. -/
def afterWord (letters text : List Char) : Option (List Char) :=
  if letters.isPrefixOf text then some (text.drop letters.length) else none

/-- The token that starts with a given character, and the text after it. -/
def scan (first : Char) (rest : List Char) : Option (Token × List Char) :=
  match first with
  | '[' => some (openArray, rest)
  | ']' => some (closeArray, rest)
  | '\x7b' => some (openObject, rest)
  | '\x7d' => some (closeObject, rest)
  | ':' => some (colon, rest)
  | ',' => some (comma, rest)
  | 'n' => (afterWord ['u', 'l', 'l'] rest).map (null, ·)
  | 't' => (afterWord ['r', 'u', 'e'] rest).map (bool true, ·)
  | 'f' => (afterWord ['a', 'l', 's', 'e'] rest).map (bool false, ·)
  | '"' => (Literal.scan rest).map fun (lexeme, rest) => (string lexeme, rest)
  | first => (Number.scan (first :: rest)).map fun (lexeme, rest) => (number lexeme, rest)

end Token

/-- What follows a string literal is shorter than the text that starts inside it. -/
theorem Literal.length_lt_of_scan
    {text lexeme rest : List Char}
    (scanned : Literal.scan text = some (lexeme, rest)) :
    rest.length < text.length := by
  fun_induction Literal.scan text generalizing lexeme rest with
  | case1 => contradiction
  | case2 => cases scanned; simp
  | case3 _ _ _ _ _ _ inductionHypothesis =>
    obtain ⟨found, found_eq, rfl, rfl⟩ := by simpa using scanned
    have := inductionHypothesis found_eq
    simp only [List.length_cons]
    omega
  | case4 => contradiction
  | case5 _ _ _ _ inductionHypothesis =>
    obtain ⟨found, found_eq, rfl, rfl⟩ := by simpa using scanned
    have := inductionHypothesis found_eq
    simp only [List.length_cons]
    omega
  | case6 => contradiction
  | case7 => contradiction
  | case8 _ _ _ _ _ _ inductionHypothesis =>
    obtain ⟨found, found_eq, rfl, rfl⟩ := by simpa using scanned
    have := inductionHypothesis found_eq
    simp only [List.length_cons]
    omega

theorem Token.length_of_afterWord
    {letters text rest : List Char}
    (found : afterWord letters text = some rest) :
    rest.length ≤ text.length := by
  unfold afterWord at found
  split at found
  · cases found
    simp
  · contradiction

/-- What follows a token is no longer than the text behind its first character. -/
theorem Token.length_of_scan
    {first : Char}
    {text rest : List Char}
    {token : Token}
    (scanned : Token.scan first text = some (token, rest)) :
    rest.length ≤ text.length := by
  unfold Token.scan at scanned
  split at scanned
  iterate 6 (cases scanned; exact Nat.le_refl _)
  iterate 3
    obtain ⟨found, found_eq, equal⟩ := Option.map_eq_some_iff.1 scanned
    cases equal
    exact length_of_afterWord found_eq
  · obtain ⟨⟨lexeme, tail⟩, scan_eq, equal⟩ := Option.map_eq_some_iff.1 scanned
    cases equal
    exact Nat.le_of_lt (Literal.length_lt_of_scan scan_eq)
  · obtain ⟨⟨lexeme, tail⟩, scan_eq, equal⟩ := Option.map_eq_some_iff.1 scanned
    cases equal
    obtain ⟨nonempty, append⟩ := Number.scan_eq_some scan_eq
    have lengths := congrArg List.length append
    have := List.length_pos_iff.2 nonempty
    simp only [List.length_append, List.length_cons] at lengths
    omega

/-- The tokens of a text, if the text is made of tokens and the blanks between them. -/
def Token.ofText? : List Char → Option (List Token)
  | [] => some []
  | first :: rest =>
    if isSpace first then ofText? rest
    else
      match _scanned : scan first rest with
      | none => none
      | some (token, rest) => (ofText? rest).map (token :: ·)
termination_by text => text.length
decreasing_by
  · simp
  · have := Token.length_of_scan _scanned
    simp only [List.length_cons]
    omega

end FlightRule.Json
