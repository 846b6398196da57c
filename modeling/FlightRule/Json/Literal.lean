import FlightRule.Text.Basic

/-!
# JSON string literals

A string literal is kept as its lexeme, the characters between its quotation marks.  `decode`
reads the text that a lexeme denotes, and `encode` writes the one lexeme that this library uses
for a text.  Not every well-formed lexeme denotes a text: an escape may leave a surrogate
unpaired.
-/

namespace FlightRule.Json.Literal

open Text (hexDigit hexValue isHexDigit)

/-- The character that a backslash before a letter or mark stands for. -/
def unescape? : Char → Option Char
  | '"' => some '"'
  | '\\' => some '\\'
  | '/' => some '/'
  | 'b' => some '\x08'
  | 'f' => some '\x0c'
  | 'n' => some '\n'
  | 'r' => some '\r'
  | 't' => some '\t'
  | _ => none

/-- The lexeme up to the closing quotation mark and the text after that mark. -/
def scan : List Char → Option (List Char × List Char)
  | [] => none
  | '"' :: rest => some ([], rest)
  | '\\' :: 'u' :: a :: b :: c :: d :: rest =>
    if isHexDigit a && isHexDigit b && isHexDigit c && isHexDigit d then
      (scan rest).map fun (lexeme, rest) => ('\\' :: 'u' :: a :: b :: c :: d :: lexeme, rest)
    else none
  | '\\' :: escape :: rest =>
    if (unescape? escape).isSome then
      (scan rest).map fun (lexeme, rest) => ('\\' :: escape :: lexeme, rest)
    else none
  | c :: rest =>
    if c.toNat < 0x20 || c == '\\' then none
    else (scan rest).map fun (lexeme, rest) => (c :: lexeme, rest)

/-- A lexeme is made of characters and of code units written in hexadecimal. -/
inductive Piece where
  /-- A character, written as itself or by a short escape. -/
  | char (c : Char)
  /-- A code unit, written by an escape with four hexadecimal digits. -/
  | unit (code : Nat)

/-- The pieces of a well-formed lexeme. -/
def pieces : List Char → List Piece
  | [] => []
  | '\\' :: 'u' :: a :: b :: c :: d :: rest =>
    .unit (((hexValue a * 16 + hexValue b) * 16 + hexValue c) * 16 + hexValue d) :: pieces rest
  | '\\' :: escape :: rest => .char ((unescape? escape).getD escape) :: pieces rest
  | c :: rest => .char c :: pieces rest

/-- The first half of a surrogate pair. -/
def isHighSurrogate (code : Nat) : Bool := decide (0xD800 ≤ code) && decide (code < 0xDC00)

/-- The second half of a surrogate pair. -/
def isLowSurrogate (code : Nat) : Bool := decide (0xDC00 ≤ code) && decide (code < 0xE000)

/-- The characters that pieces stand for, if every surrogate among them is paired. -/
def joinPieces : List Piece → Option (List Char)
  | [] => some []
  | .char c :: rest => (joinPieces rest).map (c :: ·)
  | .unit code :: rest =>
    if isHighSurrogate code then
      match rest with
      | .unit low :: rest =>
        if isLowSurrogate low then
          (joinPieces rest).map
            (Char.ofNat (0x10000 + (code - 0xD800) * 0x400 + (low - 0xDC00)) :: ·)
        else none
      | _ => none
    else if isLowSurrogate code then none
    else (joinPieces rest).map (Char.ofNat code :: ·)

/-- The text that a lexeme denotes, if it denotes one. -/
def decode (lexeme : List Char) : Option String :=
  (joinPieces (pieces lexeme)).map String.ofList

/--
A character inside a literal: quotation mark and backslash behind a backslash, control characters
by their short escape or else in hexadecimal, every other character as itself.
-/
def escapeChar (c : Char) : List Char :=
  match c with
  | '"' => ['\\', '"']
  | '\\' => ['\\', '\\']
  | '\x08' => ['\\', 'b']
  | '\x0c' => ['\\', 'f']
  | '\n' => ['\\', 'n']
  | '\r' => ['\\', 'r']
  | '\t' => ['\\', 't']
  | c =>
    if c.toNat < 0x20 then
      ['\\', 'u', '0', '0', hexDigit (c.toNat / 16), hexDigit (c.toNat % 16)]
    else [c]

/-- The lexeme that this library writes for a text. -/
def encode (text : String) : List Char :=
  text.toList.flatMap escapeChar

end FlightRule.Json.Literal
