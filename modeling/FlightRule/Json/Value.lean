import FlightRule.Json.Token

/-!
# JSON values

A JSON value is a tree whose leaves are lexemes, and whose objects keep their members in written
order with repetitions.  `Json.tokens` and `Json.ofTokens?` go between values and their tokens,
`Json.text` and `Json.ofText?` between values and their text.

In the indented text of a value, each item and member stands on a line of its own, two blanks deeper
than the array or object it belongs to; an array or object without content stays on its line.
-/

namespace FlightRule

/-- A JSON value. -/
inductive Json where
  | null
  | bool (value : Bool)
  /-- A number, with the lexeme it is written with. -/
  | number (lexeme : List Char)
  /-- A string, with the lexeme between its quotation marks. -/
  | string (lexeme : List Char)
  | array (items : List Json)
  /-- An object, each member with the lexeme of its name. -/
  | object (members : List (List Char × Json))
deriving Repr, Inhabited

namespace Json

mutual

/-- The number of arrays and objects around the innermost value. -/
def depth : Json → Nat
  | array items => depthOfItems items + 1
  | object members => depthOfMembers members + 1
  | _ => 0
termination_by structural value => value

def depthOfItems : List Json → Nat
  | [] => 0
  | item :: items => max item.depth (depthOfItems items)
termination_by structural items => items

def depthOfMembers : List (List Char × Json) → Nat
  | [] => 0
  | (_, value) :: members => max value.depth (depthOfMembers members)
termination_by structural members => members

end

mutual

/-- The tokens that a value is written with. -/
def tokens : Json → List Token
  | null => [.null]
  | bool value => [.bool value]
  | number lexeme => [.number lexeme]
  | string lexeme => [.string lexeme]
  | array [] => [.openArray, .closeArray]
  | array (item :: items) => .openArray :: item.tokens ++ tokensOfItems items
  | object [] => [.openObject, .closeObject]
  | object ((name, value) :: members) =>
    .openObject :: .string name :: .colon :: value.tokens ++ tokensOfMembers members
termination_by structural value => value

/-- The tokens from behind an item to the end of its array. -/
def tokensOfItems : List Json → List Token
  | [] => [.closeArray]
  | item :: items => .comma :: item.tokens ++ tokensOfItems items
termination_by structural items => items

/-- The tokens from behind a member to the end of its object. -/
def tokensOfMembers : List (List Char × Json) → List Token
  | [] => [.closeObject]
  | (name, value) :: members =>
    .comma :: .string name :: .colon :: value.tokens ++ tokensOfMembers members
termination_by structural members => members

end

/-- An array or object that is not closed yet, with what it holds so far in reverse order. -/
inductive Frame where
  | items (done : List Json)
  /-- The name is that of the member being read. -/
  | members (done : List (List Char × Json)) (name : List Char)

/-- What may come next. -/
inductive Expectation where
  /-- A value. -/
  | value
  /-- The first item of an array, or its end. -/
  | firstItem
  /-- The name of the first member of an object, or the end of the object. -/
  | firstName
  /-- The name of a further member of an object with these members so far. -/
  | name (done : List (List Char × Json))
  /-- The colon behind a name. -/
  | colon (done : List (List Char × Json)) (name : List Char)
  /-- The end of what a complete value stands in, or a comma. -/
  | after (value : Json)

/-- A reader of tokens: the open arrays and objects, innermost first, and what may come next. -/
structure Reader where
  /-- The open arrays and objects, innermost first. -/
  frames : List Frame
  /-- What may come next. -/
  next : Expectation

namespace Reader

/-- The reader at the start of a value. -/
def start : Reader := ⟨[], .value⟩

/-- Read the first token of a value. -/
def beginValue (frames : List Frame) : Token → Option Reader
  | .openArray => some ⟨frames, .firstItem⟩
  | .openObject => some ⟨frames, .firstName⟩
  | .null => some ⟨frames, .after .null⟩
  | .bool value => some ⟨frames, .after (.bool value)⟩
  | .number lexeme => some ⟨frames, .after (.number lexeme)⟩
  | .string lexeme => some ⟨frames, .after (.string lexeme)⟩
  | _ => none

/-- Read the token behind a complete value. -/
def afterValue (value : Json) : List Frame → Token → Option Reader
  | .items done :: frames, .comma => some ⟨.items (value :: done) :: frames, .value⟩
  | .items done :: frames, .closeArray => some ⟨frames, .after (.array (value :: done).reverse)⟩
  | .members done name :: frames, .comma => some ⟨frames, .name ((name, value) :: done)⟩
  | .members done name :: frames, .closeObject =>
    some ⟨frames, .after (.object ((name, value) :: done).reverse)⟩
  | _, _ => none

/-- Read one token. -/
def step (reader : Reader) (token : Token) : Option Reader :=
  match reader.next with
  | .value => beginValue reader.frames token
  | .firstItem =>
    match token with
    | .closeArray => some ⟨reader.frames, .after (.array [])⟩
    | token => beginValue (.items [] :: reader.frames) token
  | .firstName =>
    match token with
    | .closeObject => some ⟨reader.frames, .after (.object [])⟩
    | .string lexeme => some ⟨reader.frames, .colon [] lexeme⟩
    | _ => none
  | .name done =>
    match token with
    | .string lexeme => some ⟨reader.frames, .colon done lexeme⟩
    | _ => none
  | .colon done name =>
    match token with
    | .colon => some ⟨.members done name :: reader.frames, .value⟩
    | _ => none
  | .after value => afterValue value reader.frames token

/-- The value read, if it is complete and nothing is left open. -/
def result? : Reader → Option Json
  | ⟨[], .after value⟩ => some value
  | _ => none

end Reader

/-- The value with the given tokens. -/
def ofTokens? (tokens : List Token) : Option Json :=
  (tokens.foldlM Reader.step Reader.start).bind Reader.result?

/-- The characters of a value without blanks between its tokens. -/
def chars (value : Json) : List Char :=
  value.tokens.flatMap Token.chars

/-- The text of a value without blanks between its tokens. -/
def text (value : Json) : String :=
  String.ofList value.chars

/-- The value that a text denotes. -/
def ofText? (text : String) : Option Json :=
  (Token.ofText? text.toList).bind ofTokens?

/-- A string value with the given text. -/
def ofString (text : String) : Json :=
  .string (Literal.encode text)

/-- A number value for an integer. -/
def ofInt (value : Int) : Json :=
  .number (Number.ofInt value)

/-- An object with the given names and values. -/
def ofFields (fields : List (String × Json)) : Json :=
  .object (fields.map fun (name, value) => (Literal.encode name, value))

/-- The text that a string value denotes. -/
def string? : Json → Option String
  | string lexeme => Literal.decode lexeme
  | _ => none

/-- The integer that a number value denotes. -/
def int? : Json → Option Int
  | number lexeme => Number.toInt? lexeme
  | _ => none

/-- The truth value that a value is. -/
def bool? : Json → Option Bool
  | bool value => some value
  | _ => none

/-! ### Indented text -/

/-- A line break and the blanks in front of a line of the given depth. -/
def lineBreak (level : Nat) : List Char :=
  '\n' :: List.replicate (2 * level) ' '

mutual

/-- The characters of a value that starts at the given depth. -/
def indented (level : Nat) : Json → List Char
  | array (item :: items) =>
    '[' :: lineBreak (level + 1) ++ item.indented (level + 1) ++ indentedItems level items
  | object ((name, value) :: members) =>
    '\x7b' :: lineBreak (level + 1) ++ '"' :: name ++ ['"', ':', ' '] ++
      value.indented (level + 1) ++ indentedMembers level members
  | value => value.chars
termination_by structural value => value

/-- The characters from behind an item to the end of its array. -/
def indentedItems (level : Nat) : List Json → List Char
  | [] => lineBreak level ++ [']']
  | item :: items =>
    ',' :: lineBreak (level + 1) ++ item.indented (level + 1) ++ indentedItems level items
termination_by structural items => items

/-- The characters from behind a member to the end of its object. -/
def indentedMembers (level : Nat) : List (List Char × Json) → List Char
  | [] => lineBreak level ++ ['\x7d']
  | (name, value) :: members =>
    ',' :: lineBreak (level + 1) ++ '"' :: name ++ ['"', ':', ' '] ++
      value.indented (level + 1) ++ indentedMembers level members
termination_by structural members => members

end

/-- The indented text of a value. -/
def indentedText (value : Json) : String :=
  String.ofList (value.indented 0)

end Json

end FlightRule
