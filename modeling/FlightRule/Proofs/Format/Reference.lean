import FlightRule.Format.Reference
import FlightRule.Proofs.Json.Record
import FlightRule.Proofs.Ordered.Map
import FlightRule.Format.Compiled
import FlightRule.Proofs.Format.Record

/-!
# Reference data and geographic scopes survive JSON

Every reference document and every geographic scope is read back from its written form if reading
may open as many levels as it has.  Each zone takes two levels.
-/

namespace FlightRule

open Json

/-! ## Flight tables -/

instance : LawfulCoding FlightRow where
  decode_encode row fits :=
    readRecord_ofFields (by simp) fits fun legible =>
      .bind (legible.field (by simp)) <|
      .bind (legible.fieldOr (by simp)) <|
      .bind (legible.field (by simp)) <|
      .bind (legible.fieldOr (by simp)) <|
      FieldReader.reads_pure row
  written_encode row := written_ofFields (by simp [written_encode])

instance : LawfulCoding FlightTable where
  decode_encode table fits :=
    readRecord_ofFields (by simp) fits fun legible =>
      .bind (legible.field (by simp)) <|
      .bind (legible.field (by simp)) <|
      .bind (legible.field (by simp)) <|
      FieldReader.reads_pure table
  written_encode table := written_ofFields (by simp [written_encode])

/-! ## Places -/

namespace PlaceMatcher

mutual

/-- A matcher is read back, by recursion on its zones. -/
theorem ofJson?_toJson : ∀ (matcher : PlaceMatcher) {levels : Nat},
    matcher.toJson.depth ≤ levels → ofJson? levels matcher.toJson = some matcher
  | airport code, _, fits | city code, _, fits | nation code, _, fits | area code, _, fits => by
    obtain ⟨levels, rfl, contentFits⟩ := depth_form_le_iff.1 fits
    simp [toJson, form, ofJson?, decode_encode code contentFits]
  | zone members, _, fits => by
    obtain ⟨levels, rfl, contentFits⟩ := depth_form_le_iff.1 fits
    obtain ⟨levels, rfl, membersFit⟩ := depth_array_le_iff.1 contentFits
    simp [toJson, form, ofJson?, mapM_membersToJson members membersFit]

theorem mapM_membersToJson : ∀ (members : List PlaceMatcher) {levels : Nat},
    (∀ member ∈ membersToJson members, member.depth ≤ levels) →
      (membersToJson members).mapM (ofJson? levels) = some members
  | [], _, _ => rfl
  | member :: members, _, fit => by
    obtain ⟨memberFits, membersFit⟩ := List.forall_mem_cons.1 fit
    simp [membersToJson, List.mapM_cons, member.ofJson?_toJson memberFits,
      mapM_membersToJson members membersFit]

end

mutual

theorem written_toJson : ∀ matcher : PlaceMatcher, matcher.toJson.Written
  | airport _ | city _ | nation _ | area _ => written_ofFields (by simp [written_encode])
  | zone members => written_ofFields (by simpa using .array (written_membersToJson members))

theorem written_membersToJson :
    ∀ members : List PlaceMatcher, ∀ member ∈ membersToJson members, member.Written
  | [] => nofun
  | member :: members =>
    List.forall_mem_cons.2 ⟨member.written_toJson, written_membersToJson members⟩

end

end PlaceMatcher

instance : LawfulCoding PlaceMatcher where
  decode_encode matcher fits := matcher.ofJson?_toJson fits
  written_encode := PlaceMatcher.written_toJson

instance : LawfulCoding Boundary where
  decode_encode boundary fits :=
    readRecord_ofFields (by simp) fits fun legible =>
      .bind (legible.fieldOr (by simp)) <|
      .bind (legible.fieldOr (by simp)) <|
      .bind (legible.fieldOr (by simp)) <|
      FieldReader.reads_pure boundary
  written_encode boundary := written_ofFields (by simp [written_encode])

instance : LawfulCoding GeoItem where
  decode_encode item fits :=
    readRecord_ofFields (by simp) fits fun legible =>
      .bind (legible.field (by simp)) <|
      .bind (legible.field (by simp)) <|
      .bind (legible.field (by simp)) <|
      .bind (legible.fieldOr (by simp)) <|
      FieldReader.reads_pure item
  written_encode item := written_ofFields (by simp [written_encode])

/-! ## Sets and maps -/

instance : LawfulCoding (OrderedSet String) where
  decode_encode set fits := by
    have read := decode_encode set.toList fits
    have collected : OrderedSet.ofList set.toList = set := by
      ext text
      exact OrderedSet.mem_toList_ofList
    change (decode _ (encode set.toList)).map OrderedSet.ofList = some set
    rw [read, Option.map_some, collected]
  written_encode set := written_encode set.toList

namespace OrderedMap

variable {κ α : Type} [Ord κ] [Encode α] [Decode α] [LawfulCoding α] {nameOf : κ → List Char}

/-- A map is read back if its keys are read from their names. -/
theorem ofJson?_toJson
    [Std.TransOrd κ]
    [Std.LawfulEqOrd κ]
    {key? : List Char → Option κ}
    {levels : Nat}
    (map : OrderedMap κ α)
    (key?_nameOf : ∀ key, key? (nameOf key) = some key)
    (fits : (map.toJson nameOf).depth ≤ levels) :
    ofJson? key? levels (map.toJson nameOf) = some map := by
  obtain ⟨levels, rfl, valuesFit⟩ := depth_object_le_iff.1 fits
  rw [List.forall_mem_map] at valuesFit
  have read (entries : List (κ × α)) (fit : ∀ entry ∈ entries, (encode entry.2).depth ≤ levels) :
      (entries.map fun entry => (nameOf entry.1, encode entry.2)).mapM
        (fun member => return (← key? member.1, ← decode levels member.2)) = some entries := by
    induction entries with
    | nil => rfl
    | cons entry entries inductionHypothesis =>
        obtain ⟨entryFits, entriesFit⟩ := List.forall_mem_cons.1 fit
        rw [List.map_cons, List.mapM_cons, inductionHypothesis entriesFit]
        simp [key?_nameOf, decode_encode entry.2 entryFits]
  have collected := congrArg (Option.map ofList) (read map.entries valuesFit)
  rw [Option.map_some, ofList_entries] at collected
  exact collected

theorem written_toJson
    (map : OrderedMap κ α)
    (names : ∀ key, Literal.IsLexeme (nameOf key)) :
    (map.toJson nameOf).Written := by
  refine .object ?_ ?_
  · rw [List.forall_mem_map]
    exact fun entry _ => names entry.1
  · rw [List.forall_mem_map]
    exact fun entry _ => written_encode entry.2

end OrderedMap

/-- A number is read from the name that it is written as. -/
theorem numberOfName?_ofInt (number : UInt32) :
    numberOfName? (Number.ofInt number.toNat) = some number := by
  have scanned := Number.isLexeme_ofInt number.toNat [] (by simp [Number.EndsBefore])
  rw [List.append_nil] at scanned
  rw [numberOfName?, scanned]
  exact decode_encode number (Nat.zero_le 0)

section

variable {α : Type} [Encode α] [Decode α] [LawfulCoding α]

instance : LawfulCoding (OrderedMap UInt32 α) where
  decode_encode map fits := map.ofJson?_toJson numberOfName?_ofInt fits
  written_encode map := map.written_toJson fun number => by
    have notNegative : ¬(number.toNat : Int) < 0 := by omega
    rw [Number.ofInt, if_neg notNegative]
    exact Literal.isLexeme_toDigits _

instance : LawfulCoding (OrderedMap String α) where
  decode_encode map fits := map.ofJson?_toJson Literal.decode_encode fits
  written_encode map := map.written_toJson Literal.isLexeme_encode

end

instance : LawfulCoding ReferenceDocument where
  decode_encode document fits :=
    readRecord_ofFields (by simp) fits fun legible =>
      .bind (legible.fieldOr (by simp)) <|
      .bind (legible.fieldOr (by simp)) <|
      .bind (legible.fieldOr (by simp)) <|
      .bind (legible.fieldOr (by simp)) <|
      FieldReader.reads_pure document
  written_encode document := written_ofFields (by simp [written_encode])

/-! ## Geographic scopes -/

instance : LawfulCoding GeoPoint where
  decode_encode point fits :=
    readRecord_ofFields (by simp) fits fun legible =>
      .bind (legible.field (by simp)) <|
      .bind (legible.field (by simp)) <|
      FieldReader.reads_pure point
  written_encode point := written_ofFields (by simp [written_encode])

instance : NeverNull GeoPoint where
  encode_ne_null _ := ofFields_ne_null _

instance : LawfulCoding ScopeForm where
  decode_encode {levels} form fits := by
    cases form with
    | whole => cases levels <;> simp [encode, decode]
    | between first second =>
        obtain ⟨levels, rfl, contentFits⟩ := depth_form_le_iff.1 fits
        obtain ⟨levels, rfl, pointsFit⟩ := depth_array_le_iff.1 contentFits
        have firstRead := decode_encode first (pointsFit _ (by simp))
        have secondRead := decode_encode second (pointsFit _ (by simp))
        rw [encode, decode, instEncodeScopeForm, instDecodeScopeForm]
        simp [firstRead, secondRead]
    | within point | startingAt point | endingAt point =>
        obtain ⟨levels, rfl, contentFits⟩ := depth_form_le_iff.1 fits
        rw [encode, decode, instEncodeScopeForm, instDecodeScopeForm]
        simp [decode_encode point contentFits]
    | through points =>
        obtain ⟨levels, rfl, contentFits⟩ := depth_form_le_iff.1 fits
        rw [encode, decode, instEncodeScopeForm, instDecodeScopeForm]
        simp [decode_encode points contentFits]
  written_encode form := by
    cases form with
    | whole => exact written_ofString _
    | between first second =>
        refine written_ofFields ?_
        rw [List.forall_mem_singleton]
        exact .array (by simp [written_encode])
    | within | startingAt | endingAt | through =>
        exact written_ofFields (by simp [written_encode])

instance : LawfulCoding GeoScope where
  decode_encode scope fits :=
    readRecord_ofFields (by simp) fits fun legible =>
      .bind (legible.field (by simp)) <|
      .bind (legible.fieldOrNull (by simp)) <|
      .bind (legible.field (by simp)) <|
      .bind (legible.field (by simp)) <|
      FieldReader.reads_pure scope
  written_encode scope := written_ofFields (by simp [written_encode])

end FlightRule
