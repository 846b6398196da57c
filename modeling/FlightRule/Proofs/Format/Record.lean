import FlightRule.Format.Record
import FlightRule.Proofs.Json.Record

/-!
# Rule records survive JSON

Every rule record is read back from its written form, which never opens more than two levels.
-/

namespace FlightRule

open Json

instance : LawfulNamed Application := ⟨fun value => by cases value <;> rfl⟩
instance : LawfulNamed Relation := ⟨fun value => by cases value <;> rfl⟩
instance : LawfulNamed Validity := ⟨fun value => by cases value <;> rfl⟩
instance : LawfulNamed LocationUse := ⟨fun value => by cases value <;> rfl⟩
instance : LawfulNamed ViaPolarity := ⟨fun value => by cases value <;> rfl⟩
instance : LawfulNamed HiddenStops := ⟨fun value => by cases value <;> rfl⟩
instance : LawfulNamed DirectionIndicator := ⟨fun value => by cases value <;> rfl⟩
instance : LawfulNamed Availability := ⟨fun value => by cases value <;> rfl⟩

instance : LawfulCoding Slot where
  decode_encode slot fits :=
    readRecord_ofFields (by simp) fits fun legible =>
      .bind (legible.fieldOr (by simp)) <|
      .bind (legible.fieldOr (by simp)) <|
      .bind (legible.fieldOr (by simp)) <|
      FieldReader.reads_pure slot
  written_encode slot := written_ofFields (by simp [written_encode])

instance : LawfulCoding Slots where
  decode_encode slots fits := by
    obtain ⟨levels, rfl, itemsFit⟩ := depth_array_le_iff.1 fits
    have first := decode_encode slots.first (itemsFit _ (by simp))
    have second := decode_encode slots.second (itemsFit _ (by simp))
    have third := decode_encode slots.third (itemsFit _ (by simp))
    change (decode levels (encode slots.first)).bind (fun first =>
      (decode levels (encode slots.second)).bind fun second =>
        (decode levels (encode slots.third)).bind fun third =>
          some (⟨first, second, third⟩ : Slots)) = _
    simp only [first, second, third, Option.bind_some]
  written_encode slots := .array (by simp [written_encode])

instance : LawfulCoding ShapeFlags where
  decode_encode flags fits :=
    readRecord_ofFields (by simp) fits fun legible =>
      .bind (legible.fieldOr (by simp)) <|
      .bind (legible.fieldOr (by simp)) <|
      .bind (legible.fieldOr (by simp)) <|
      .bind (legible.fieldOr (by simp)) <|
      .bind (legible.fieldOr (by simp)) <|
      .bind (legible.fieldOr (by simp)) <|
      .bind (legible.fieldOr (by simp)) <|
      FieldReader.reads_pure flags
  written_encode flags := written_ofFields (by simp [written_encode])

instance : LawfulCoding GeoReferences where
  decode_encode fields fits :=
    readRecord_ofFields (by simp) fits fun legible =>
      .bind (legible.fieldOr (by simp)) <|
      .bind (legible.fieldOr (by simp)) <|
      .bind (legible.fieldOr (by simp)) <|
      .bind (legible.fieldOr (by simp)) <|
      .bind (legible.fieldOr (by simp)) <|
      .bind (legible.fieldOr (by simp)) <|
      FieldReader.reads_pure fields
  written_encode fields := written_ofFields (by simp [written_encode])

instance : LawfulCoding RuleRecord where
  decode_encode record fits :=
    readRecord_ofFields (by simp) fits fun legible =>
      .bind (legible.field (by simp)) <|
      .bind (legible.field (by simp)) <|
      .bind (legible.fieldOr (by simp)) <|
      .bind (legible.fieldOr (by simp)) <|
      .bind (legible.fieldOr (by simp)) <|
      .bind (legible.fieldOr (by simp)) <|
      .bind (legible.fieldOr (by simp)) <|
      .bind (legible.fieldOr (by simp)) <|
      .bind (legible.fieldOr (by simp)) <|
      .bind (legible.fieldOr (by simp)) <|
      .bind (legible.fieldOr (by simp)) <|
      .bind (legible.fieldOr (by simp)) <|
      .bind (legible.fieldOr (by simp)) <|
      FieldReader.reads_pure record
  written_encode record := written_ofFields (by simp [written_encode])

end FlightRule
