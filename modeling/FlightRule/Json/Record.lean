import FlightRule.Json.Value

/-!
# Records in JSON

How the values of a type are written as JSON values and read from them.

* A record is written as an object with its fields in their fixed order.  It is read from an
  object with the fields in any order, each at most once, other members ignored, or from an array
  with the fields in their fixed order.
* A value of a type with named values is its name.  It is also read from an object with that name
  as its one member and null as the member's value.
* A value of a type with several forms is an object whose one member is named for the form.

Reading takes the number of levels that may still be opened: each array and each object that is
looked into uses one up.  Members that are ignored use none.
-/

namespace FlightRule.Json

/-- Types whose values are written as JSON values. -/
class Encode (α : Type) where
  /-- The JSON value that a value is written as. -/
  encode : α → Json

/-- Types whose values are read from JSON values. -/
class Decode (α : Type) where
  /-- The value read when `levels` arrays and objects may be opened inside each other. -/
  decode (levels : Nat) (value : Json) : Option α

export Encode (encode)
export Decode (decode)

/-- A finite type whose values have names. -/
class Named (α : Type) where
  /-- Every value of the type. -/
  values : List α
  /-- The name of a value. -/
  name : α → String

/-- The value with a name. -/
def Named.ofName? {α : Type} [Named α] (text : String) : Option α :=
  (Named.values (α := α)).find? fun value => Named.name value == text

/-! ### Parts of a value -/

/-- The forms in which a value of a type with several forms is written. -/
inductive Variant where
  /-- The name of a form without content. -/
  | bare (name : String)
  /-- The name of a form and its content, which stand in an object. -/
  | holding (name : String) (content : Json)

/-- The form that a value is written in. -/
def variant? : Json → Option Variant
  | string lexeme => (Literal.decode lexeme).map .bare
  | object [(name, content)] => (Literal.decode name).map fun name => .holding name content
  | _ => none

/-- The members of an object, with the texts of their names. -/
def members? : Json → Option (List (String × Json))
  | object members =>
    members.mapM fun (name, value) => (Literal.decode name).map fun name => (name, value)
  | _ => none

/-- The fields of a record that have not been read yet. -/
inductive Fields where
  /-- The members of an object. -/
  | named (members : List (String × Json))
  /-- The remaining items of an array. -/
  | positional (items : List Json)

/-- Reading of some fields of a record. -/
abbrev FieldReader (α : Type) := StateT Fields Option α

namespace Fields

/-- The fields of a record that is written as an array or an object. -/
def ofJson? : Json → Option Fields
  | array items => some (.positional items)
  | value => value.members?.map .named

/-- The next field, by its name in an object and by its place in an array; none if it is absent. -/
def next? (name : String) : Fields → Option (Option Json × Fields)
  | .named members =>
    match members.filter fun member => member.1 == name with
    | [] => some (none, .named members)
    | [member] => some (some member.2, .named members)
    | _ => none
  | .positional [] => some (none, .positional [])
  | .positional (item :: items) => some (some item, .positional items)

/-- An array holds nothing beyond the fields of the record. -/
def complete : Fields → Bool
  | .named _ => true
  | .positional items => items.isEmpty

end Fields

variable {α : Type}

/-- A field that has to be present. -/
def field (name : String) (read : Json → Option α) : FieldReader α := fun fields => do
  let (value, rest) ← fields.next? name
  return (← read (← value), rest)

/-- A field that has a default value when it is absent. -/
def fieldOr (name : String) (default : α) (read : Json → Option α) : FieldReader α :=
  fun fields => do
    match ← fields.next? name with
    | (none, rest) => return (default, rest)
    | (some value, rest) => return (← read value, rest)

/-- A field that may be null, and may be absent from an object but not from an array. -/
def fieldOrNull (name : String) (read : Json → Option α) : FieldReader (Option α) :=
  fun fields => do
    match ← fields.next? name with
    | (none, .named members) => return (none, .named members)
    | (none, .positional _) => none
    | (some .null, rest) => return (none, rest)
    | (some value, rest) => return (some (← read value), rest)

/-- A record whose fields are read in their order. -/
def readFields (reader : FieldReader α) (value : Json) : Option α := do
  let (record, rest) ← reader (← Fields.ofJson? value)
  if rest.complete then some record else none

/-- A record that opens one level for its fields. -/
def readRecord (levels : Nat) (reader : Nat → FieldReader α) (value : Json) : Option α :=
  match levels with
  | 0 => none
  | levels + 1 => readFields (reader levels) value

/-! ### Reading and writing of basic types -/

instance : Encode String := ⟨ofString⟩
instance : Encode Bool := ⟨bool⟩
instance : Encode UInt32 := ⟨fun value => ofInt value.toNat⟩
instance : Encode Int32 := ⟨fun value => ofInt value.toInt⟩
instance : Encode UInt8 := ⟨fun value => ofInt value.toNat⟩
instance : Encode Nat := ⟨fun value => ofInt value⟩
instance [Encode α] : Encode (List α) := ⟨fun items => array (items.map encode)⟩
instance [Encode α] : Encode (Option α) := ⟨fun value => value.elim null encode⟩

instance : Decode String := ⟨fun _ value => value.string?⟩
instance : Decode Bool := ⟨fun _ value => value.bool?⟩

instance : Decode UInt32 where
  decode _ value := do
    let number ← value.int?
    if 0 ≤ number ∧ number.toNat < UInt32.size then some (UInt32.ofNat number.toNat) else none

instance : Decode Int32 where
  decode _ value := do
    let number ← value.int?
    if Int32.minValue.toInt ≤ number ∧ number ≤ Int32.maxValue.toInt then
      some (Int32.ofInt number)
    else none

instance : Decode UInt8 where
  decode _ value := do
    let number ← value.int?
    if 0 ≤ number ∧ number.toNat < UInt8.size then some (UInt8.ofNat number.toNat) else none

instance [Decode α] : Decode (List α) where
  decode levels value :=
    match levels, value with
    | levels + 1, array items => items.mapM (decode levels)
    | _, _ => none

instance [Decode α] : Decode (Option α) where
  decode levels value :=
    match value with
    | null => some none
    | value => (decode levels value).map some

instance [Named α] : Encode α := ⟨fun value => ofString (Named.name value)⟩

instance [Named α] : Decode α where
  decode levels value :=
    match levels, value.variant? with
    | _, some (.bare name) => Named.ofName? name
    | _ + 1, some (.holding name null) => Named.ofName? name
    | _, _ => none

/-- The nesting of arrays and objects up to which the text of a record is read. -/
def levelLimit : Nat := 127

/-- The record that a text denotes. -/
def recordOfText? (α : Type) [Decode α] (text : String) : Option α :=
  (ofText? text).bind (decode levelLimit)

end FlightRule.Json
