import FlightRule.Json.Record
import FlightRule.Proofs.Json.Text

/-!
# Types that survive JSON

A value of a type with a lawful coding (`LawfulCoding`) is read back from what it is written as,
provided that reading may open as many levels as the written value has.  Then it is also read back
from its text, without blanks or indented (`recordOfText?_text`, `recordOfText?_indentedText`).

Codings of records are built from those of their fields: `Fields.Legible` describes the members of
a written record, `FieldReader.Reads` says what a reader of fields finds in them.
-/

namespace FlightRule.Json

/-! ## Depths -/

variable {items : List Json} {members : List (List Char × Json)} {levels : Nat}

theorem depthOfItems_le_iff :
    depthOfItems items ≤ levels ↔ ∀ item ∈ items, item.depth ≤ levels := by
  induction items with
  | nil => simp [depthOfItems]
  | cons item items inductionHypothesis =>
      rw [depthOfItems, Nat.max_le, inductionHypothesis, List.forall_mem_cons]

theorem depthOfMembers_le_iff :
    depthOfMembers members ≤ levels ↔ ∀ member ∈ members, member.2.depth ≤ levels := by
  induction members with
  | nil => simp [depthOfMembers]
  | cons member members inductionHypothesis =>
      rw [depthOfMembers, Nat.max_le, inductionHypothesis, List.forall_mem_cons]

/-- An array takes one level more than its items. -/
theorem depth_array_le_iff :
    (array items).depth ≤ levels ↔
      ∃ inner, levels = inner + 1 ∧ ∀ item ∈ items, item.depth ≤ inner := by
  cases levels with
  | zero => simp [depth]
  | succ levels => simp [depth, depthOfItems_le_iff]

/-- An object takes one level more than the values of its members. -/
theorem depth_object_le_iff :
    (object members).depth ≤ levels ↔
      ∃ inner, levels = inner + 1 ∧ ∀ member ∈ members, member.2.depth ≤ inner := by
  cases levels with
  | zero => simp [depth]
  | succ levels => simp [depth, depthOfMembers_le_iff]

/-- A record fits into some levels when its values fit into one less. -/
theorem depth_ofFields_le_iff {fields : List (String × Json)} :
    (ofFields fields).depth ≤ levels ↔
      ∃ inner, levels = inner + 1 ∧ ∀ field ∈ fields, field.2.depth ≤ inner := by
  rw [ofFields, depth_object_le_iff]
  simp only [List.forall_mem_map]

theorem depth_form_le_iff {name : String} {content : Json} :
    (ofFields [(name, content)]).depth ≤ levels ↔
      ∃ inner, levels = inner + 1 ∧ content.depth ≤ inner := by
  simp only [depth_ofFields_le_iff, List.forall_mem_singleton]

theorem depth_elim_le_iff {α : Type} {value : Option α} {write : α → Json} :
    (value.elim null write).depth ≤ levels ↔ ∀ found ∈ value, (write found).depth ≤ levels := by
  cases value <;> simp [depth]

@[simp] theorem depth_ofString (text : String) : (ofString text).depth = 0 := rfl

@[simp] theorem depth_ofInt (value : Int) : (ofInt value).depth = 0 := rfl

@[simp] theorem depth_encode_string (text : String) : (encode text).depth = 0 := rfl

@[simp] theorem depth_encode_bool (value : Bool) : (encode value).depth = 0 := rfl

@[simp] theorem depth_encode_uInt32 (value : UInt32) : (encode value).depth = 0 := rfl

@[simp] theorem depth_encode_named {α : Type} [Named α] (value : α) : (encode value).depth = 0 :=
  rfl

/-! ## Written values -/

theorem written_ofString (text : String) : (ofString text).Written :=
  .string (Literal.isLexeme_encode text)

theorem written_ofInt (value : Int) : (ofInt value).Written :=
  .number (Number.isLexeme_ofInt value)

/-- A record of written values is written. -/
theorem written_ofFields
    {fields : List (String × Json)}
    (values_written : ∀ field ∈ fields, field.2.Written) :
    (ofFields fields).Written := by
  refine .object ?_ ?_
  · rw [List.forall_mem_map]
    exact fun field _ => Literal.isLexeme_encode field.1
  · rw [List.forall_mem_map]
    exact values_written

/-! ## Parts of a written value -/

@[simp] theorem string?_ofString (text : String) : (ofString text).string? = some text :=
  Literal.decode_encode text

@[simp] theorem int?_ofInt (value : Int) : (ofInt value).int? = some value :=
  Number.toInt?_ofInt value

@[simp] theorem variant?_ofString (text : String) :
    (ofString text).variant? = some (.bare text) := by
  rw [ofString, variant?, Literal.decode_encode, Option.map_some]

@[simp] theorem variant?_ofFields (name : String) (content : Json) :
    (ofFields [(name, content)]).variant? = some (.holding name content) := by
  rw [ofFields, List.map_cons, List.map_nil, variant?, Literal.decode_encode, Option.map_some]

theorem members?_ofFields (fields : List (String × Json)) :
    (ofFields fields).members? = some fields := by
  induction fields with
  | nil => rfl
  | cons field fields inductionHypothesis =>
      simp only [ofFields, members?] at inductionHypothesis ⊢
      rw [List.map_cons, List.mapM_cons, inductionHypothesis]
      simp

theorem ofJson?_ofFields (fields : List (String × Json)) :
    Fields.ofJson? (ofFields fields) = some (.named fields) := by
  rw [Fields.ofJson?, members?_ofFields, Option.map_some]
  exact nofun

/-! ## Lawful codings -/

/-- Types whose values are read back from what they are written as. -/
class LawfulCoding (α : Type) [Encode α] [Decode α] : Prop where
  /-- A value is read back if its levels may be opened. -/
  decode_encode {levels : Nat} (value : α) (fits : (encode value).depth ≤ levels) :
    decode levels (encode value) = some value
  /-- A value is written in lexemes that are scanned as a whole. -/
  written_encode (value : α) : (encode value).Written

export LawfulCoding (decode_encode written_encode)

variable {α : Type} [Encode α] [Decode α]

/-- A value is read back from its text. -/
theorem recordOfText?_text
    [LawfulCoding α]
    (value : α)
    (fits : (encode value).depth ≤ levelLimit) :
    recordOfText? α (encode value).text = some value := by
  rw [recordOfText?, (written_encode value).ofText?_text, Option.bind_some,
    decode_encode value fits]

/-- A value is read back from its indented text. -/
theorem recordOfText?_indentedText
    [LawfulCoding α]
    (value : α)
    (fits : (encode value).depth ≤ levelLimit) :
    recordOfText? α (encode value).indentedText = some value := by
  rw [recordOfText?, (written_encode value).ofText?_indentedText, Option.bind_some,
    decode_encode value fits]

instance : LawfulCoding String where
  decode_encode text _ := string?_ofString text
  written_encode := written_ofString

instance : LawfulCoding Bool where
  decode_encode _ _ := rfl
  written_encode := .bool

instance : LawfulCoding UInt32 where
  decode_encode value _ := by
    have read : (encode value).int? = some (value.toNat : Int) := int?_ofInt _
    have inRange : 0 ≤ (value.toNat : Int) ∧ (value.toNat : Int).toNat < UInt32.size :=
      ⟨Int.natCast_nonneg _, value.toNat_lt_size⟩
    change (encode value).int?.bind (fun number : Int =>
      if 0 ≤ number ∧ number.toNat < UInt32.size then
        some (UInt32.ofNat number.toNat)
      else none) = _
    rw [read, Option.bind_some, if_pos inRange, Int.toNat_natCast, UInt32.ofNat_toNat]
  written_encode _ := written_ofInt _

instance : LawfulCoding UInt8 where
  decode_encode value _ := by
    have read : (encode value).int? = some (value.toNat : Int) := int?_ofInt _
    have inRange : 0 ≤ (value.toNat : Int) ∧ (value.toNat : Int).toNat < UInt8.size :=
      ⟨Int.natCast_nonneg _, value.toNat_lt_size⟩
    change (encode value).int?.bind (fun number : Int =>
      if 0 ≤ number ∧ number.toNat < UInt8.size then some (UInt8.ofNat number.toNat) else none) = _
    rw [read, Option.bind_some, if_pos inRange, Int.toNat_natCast, UInt8.ofNat_toNat]
  written_encode _ := written_ofInt _

instance : LawfulCoding Int32 where
  decode_encode value _ := by
    have read : (encode value).int? = some value.toInt := int?_ofInt _
    have inRange :
        Int32.minValue.toInt ≤ value.toInt ∧ value.toInt ≤ Int32.maxValue.toInt :=
      ⟨value.minValue_le_toInt, value.toInt_le⟩
    change (encode value).int?.bind (fun number : Int =>
      if Int32.minValue.toInt ≤ number ∧ number ≤ Int32.maxValue.toInt then
        some (Int32.ofInt number)
      else none) = _
    rw [read, Option.bind_some, if_pos inRange, Int32.ofInt_toInt]
  written_encode _ := written_ofInt _

/-- The values of a list are read back. -/
theorem mapM_decode_encode
    [LawfulCoding α]
    {values : List α}
    (fits : ∀ value ∈ values, (encode value).depth ≤ levels) :
    (values.map encode).mapM (decode levels) = some values := by
  induction values with
  | nil => rfl
  | cons value values inductionHypothesis =>
      obtain ⟨valueFits, valuesFit⟩ := List.forall_mem_cons.1 fits
      simp [List.mapM_cons, decode_encode value valueFits, inductionHypothesis valuesFit]

instance [LawfulCoding α] : LawfulCoding (List α) where
  decode_encode values fits := by
    obtain ⟨levels, rfl, itemsFit⟩ := depth_array_le_iff.1 fits
    rw [List.forall_mem_map] at itemsFit
    exact mapM_decode_encode itemsFit
  written_encode values := by
    refine .array ?_
    rw [List.forall_mem_map]
    exact fun value _ => written_encode value

/-- Types without a value that is written as null. -/
class NeverNull (α : Type) [Encode α] : Prop where
  encode_ne_null (value : α) : encode value ≠ null

instance [LawfulCoding α] [NeverNull α] : LawfulCoding (Option α) where
  decode_encode value fits := by
    cases value with
    | none => rfl
    | some value =>
        have present := NeverNull.encode_ne_null value
        have found := decode_encode value fits
        simp only [encode, Option.elim_some, decode] at present found ⊢
        rw [found, Option.map_some]
  written_encode value := by
    cases value with
    | none => exact .null
    | some value => exact written_encode value

/-- Types whose values are known by their names. -/
class LawfulNamed (α : Type) [Named α] : Prop where
  ofName?_name (value : α) : Named.ofName? (Named.name value) = some value

instance {α : Type} [Named α] [LawfulNamed α] : LawfulCoding α where
  decode_encode {levels} value _ := by
    have found := LawfulNamed.ofName?_name value
    cases levels <;> simp [encode, decode, found]
  written_encode _ := written_ofString _

instance {α : Type} [Named α] : NeverNull α where
  encode_ne_null _ := nofun

theorem ofFields_ne_null (fields : List (String × Json)) : ofFields fields ≠ null :=
  nofun

/-! ## Records -/

/-- The members of a written record: their names are different and their values fit. -/
structure Fields.Legible (fields : List (String × Json)) (levels : Nat) : Prop where
  nodup_names : (fields.map Prod.fst).Nodup
  values_fit : ∀ field ∈ fields, field.2.depth ≤ levels

/-- A reader of fields finds a value in the members of an object, and leaves them as they are. -/
def FieldReader.Reads
    {α : Type}
    (reader : FieldReader α)
    (fields : List (String × Json))
    (value : α) : Prop :=
  reader (.named fields) = some (value, .named fields)

namespace FieldReader

variable {β : Type} {fields : List (String × Json)}

theorem reads_pure {α : Type} (value : α) : (pure value : FieldReader α).Reads fields value := rfl

/-- Two readers read one after the other what they read alone. -/
theorem Reads.bind
    {α : Type}
    {reader : FieldReader α}
    {next : α → FieldReader β}
    {value : α}
    {result : β}
    (first : reader.Reads fields value)
    (second : (next value).Reads fields result) :
    (reader >>= next).Reads fields result := by
  have run : (reader >>= next) (.named fields) =
      (reader (.named fields)).bind fun read => next read.1 read.2 := rfl
  rw [Reads, run, first]
  exact second

end FieldReader

namespace Fields.Legible

open FieldReader (Reads)

variable {fields : List (String × Json)} {name : String} {value : Json}

/--
A listed field is found under its name: a name that is listed twice would be an error, so that the
names are different.
-/
theorem next?_eq
    (legible : Legible fields levels)
    (listed : (name, value) ∈ fields) :
    Fields.next? name (.named fields) = some (some value, .named fields) := by
  have onlyOne : fields.filter (fun field => field.1 == name) = [(name, value)] := by
    have nodup := legible.nodup_names
    clear legible
    induction fields with
    | nil => contradiction
    | cons head fields inductionHypothesis =>
        obtain ⟨headNotBehind, nodupBehind⟩ := List.nodup_cons.1 nodup
        rcases List.mem_cons.1 listed with rfl | behind
        · have noneBehind : fields.filter (fun field => field.1 == name) = [] := by
            rw [List.filter_eq_nil_iff]
            intro field member same
            exact headNotBehind (List.mem_map.2 ⟨field, member, beq_iff_eq.1 same⟩)
          simp [noneBehind]
        · have notHead : (head.1 == name) = false := by
            rw [beq_eq_false_iff_ne]
            rintro rfl
            exact headNotBehind (List.mem_map.2 ⟨_, behind, rfl⟩)
          rw [List.filter_cons, notHead]
          exact inductionHypothesis behind nodupBehind
  simp only [Fields.next?, onlyOne]

/-- A listed field is read as its reader finds it. -/
theorem field_of_read
    {α : Type}
    {read : Json → Option α}
    {record : α}
    (legible : Legible fields levels)
    (listed : (name, value) ∈ fields)
    (found : read value = some record) :
    (Json.field name read).Reads fields record := by
  simp [Reads, Json.field, legible.next?_eq listed, found]

variable [LawfulCoding α]

theorem read_eq
    (legible : Legible fields levels)
    {value : α}
    (listed : (name, encode value) ∈ fields) :
    decode levels (encode value) = some value :=
  decode_encode value (legible.values_fit _ listed)

theorem field
    (legible : Legible fields levels)
    {value : α}
    (listed : (name, encode value) ∈ fields) :
    (Json.field name (decode levels)).Reads fields value :=
  legible.field_of_read listed (legible.read_eq listed)

theorem fieldOr
    (legible : Legible fields levels)
    {value default : α}
    (listed : (name, encode value) ∈ fields) :
    (Json.fieldOr name default (decode levels)).Reads fields value := by
  simp [Reads, Json.fieldOr, legible.next?_eq listed, legible.read_eq listed]

theorem fieldOrNull
    [NeverNull α]
    (legible : Legible fields levels)
    {value : Option α}
    (listed : (name, encode value) ∈ fields) :
    (Json.fieldOrNull name (decode levels)).Reads fields value := by
  cases value with
  | none =>
      have found := legible.next?_eq listed
      simp [Reads, Json.fieldOrNull, found, encode]
  | some value =>
      have present := NeverNull.encode_ne_null value
      have found := legible.next?_eq listed
      have read : decode levels (encode value) = some value :=
        decode_encode value (legible.values_fit _ listed)
      simp only [encode, Option.elim_some] at present read found
      simp [Reads, Json.fieldOrNull, found, read]

end Fields.Legible

/-- A record is read from the object of its fields, if it is read from the fields. -/
theorem readFields_ofFields
    {α : Type}
    {fields : List (String × Json)}
    {reader : FieldReader α}
    {value : α}
    (reads : reader.Reads fields value) :
    readFields reader (ofFields fields) = some value := by
  have read : reader (.named fields) = some (value, .named fields) := reads
  simp [readFields, ofJson?_ofFields, read, Fields.complete]

/-- A record is read back when its fields are, one by one. -/
theorem readRecord_ofFields
    {α : Type}
    {fields : List (String × Json)}
    {reader : Nat → FieldReader α}
    {value : α}
    (nodup_names : (fields.map Prod.fst).Nodup)
    (fits : (ofFields fields).depth ≤ levels)
    (reads : ∀ {inner}, Fields.Legible fields inner → (reader inner).Reads fields value) :
    readRecord levels reader (ofFields fields) = some value := by
  obtain ⟨inner, rfl, values_fit⟩ := depth_ofFields_le_iff.1 fits
  exact readFields_ofFields (reads ⟨nodup_names, values_fit⟩)

end FlightRule.Json
