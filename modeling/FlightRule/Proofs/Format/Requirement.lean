import FlightRule.Format.Requirement
import FlightRule.Proofs.Format.Record

/-!
# Requirements survive JSON

Every requirement is read back from its written form if reading may open as many levels as it has.
Each relation between criteria takes two levels.
-/

namespace FlightRule

open Json

instance : LawfulCoding CarrierPattern where
  decode_encode {levels} pattern fits := by
    cases pattern with
    | any => cases levels <;> simp [encode, decode]
    | exact code =>
        obtain ⟨levels, rfl, contentFits⟩ := depth_form_le_iff.1 fits
        rw [encode, decode, instEncodeCarrierPattern, instDecodeCarrierPattern]
        simp [decode_encode code contentFits]
  written_encode pattern := by
    cases pattern with
    | any => exact written_ofString _
    | exact code => exact written_ofFields (by simp [written_encode])

instance : LawfulCoding FlightPattern where
  decode_encode {levels} pattern fits := by
    cases pattern with
    | any => cases levels <;> simp [encode, decode]
    | exact flight =>
        obtain ⟨levels, rfl, contentFits⟩ := depth_form_le_iff.1 fits
        rw [encode, decode, instEncodeFlightPattern, instDecodeFlightPattern]
        simp [decode_encode flight contentFits]
    | range low high =>
        obtain ⟨levels, rfl, contentFits⟩ := depth_form_le_iff.1 fits
        rw [encode, decode, instEncodeFlightPattern, instDecodeFlightPattern]
        simp only [variant?_ofFields]
        exact readRecord_ofFields (by simp) contentFits fun legible =>
          .bind (legible.field (by simp)) <|
          .bind (legible.field (by simp)) <|
          FieldReader.reads_pure (FlightPattern.range low high)
  written_encode pattern := by
    cases pattern with
    | any => exact written_ofString _
    | exact flight => exact written_ofFields (by simp [written_encode])
    | range low high =>
        exact written_ofFields (by simpa using written_ofFields (by simp [written_encode]))

instance : LawfulCoding FlightCondition where
  decode_encode condition fits :=
    readRecord_ofFields (by simp) fits fun legible =>
      .bind (legible.field (by simp)) <|
      .bind (legible.field (by simp)) <|
      .bind (legible.field (by simp)) <|
      .bind (legible.fieldOr (by simp)) <|
      FieldReader.reads_pure condition
  written_encode condition := written_ofFields (by simp [written_encode])

instance : LawfulCoding TableCondition where
  decode_encode condition fits :=
    readRecord_ofFields (by simp) fits fun legible =>
      .bind (legible.field (by simp)) <|
      .bind (legible.field (by simp)) <|
      .bind (legible.field (by simp)) <|
      FieldReader.reads_pure condition
  written_encode condition := written_ofFields (by simp [written_encode])

instance : LawfulCoding Condition where
  decode_encode {levels} condition fits := by
    cases condition with
    | anyFlown => cases levels <;> simp [encode, decode]
    | flight condition | table condition =>
        obtain ⟨levels, rfl, contentFits⟩ := depth_form_le_iff.1 fits
        rw [encode, decode, instEncodeCondition, instDecodeCondition]
        simp [decode_encode condition contentFits]
  written_encode condition := by
    cases condition with
    | anyFlown => exact written_ofString _
    | flight | table => exact written_ofFields (by simp [written_encode])

instance : LawfulCoding WeekdaySet where
  decode_encode mask fits := by
    rw [encode, decode, instEncodeWeekdaySet, instDecodeWeekdaySet]
    simp [decode_encode mask.bits fits]
  written_encode mask := written_encode mask.bits

instance : LawfulCoding SegmentFilter where
  decode_encode filter fits := by
    cases filter with
    | equipment code validity =>
        obtain ⟨levels, rfl, contentFits⟩ := depth_form_le_iff.1 fits
        rw [encode, decode, instEncodeSegmentFilter, instDecodeSegmentFilter]
        simp only [variant?_ofFields]
        exact readRecord_ofFields (by simp) contentFits fun legible =>
          .bind (legible.field (by simp)) <|
          .bind (legible.field (by simp)) <|
          FieldReader.reads_pure (SegmentFilter.equipment code validity)
    | days mask =>
        obtain ⟨levels, rfl, contentFits⟩ := depth_form_le_iff.1 fits
        rw [encode, decode, instEncodeSegmentFilter, instDecodeSegmentFilter]
        simp [decode_encode mask contentFits]
  written_encode filter := by
    cases filter with
    | equipment code validity =>
        exact written_ofFields (by simpa using written_ofFields (by simp [written_encode]))
    | days mask => exact written_ofFields (by simp [written_encode])

namespace Criteria

/--
Criteria are read back from their written form.  Each relation takes one level for its form and one
for its fields.
-/
theorem ofJson?_toJson
    (criteria : Criteria)
    {levels : Nat}
    (fits : criteria.toJson.depth ≤ levels) :
    ofJson? levels criteria.toJson = some criteria := by
  induction criteria generalizing levels with
  | leaf condition =>
      obtain ⟨levels, rfl, contentFits⟩ := depth_form_le_iff.1 fits
      simp [toJson, ofJson?, decode_encode condition contentFits]
  | combine relation left right leftHypothesis rightHypothesis =>
      obtain ⟨levels, rfl, contentFits⟩ := depth_form_le_iff.1 fits
      obtain ⟨levels, rfl, fieldsFit⟩ := depth_ofFields_le_iff.1 contentFits
      have legible : Fields.Legible _ levels := ⟨by simp, fieldsFit⟩
      have leftFits : left.toJson.depth ≤ levels := fieldsFit ("lhs", _) (by simp)
      have rightFits : right.toJson.depth ≤ levels := fieldsFit ("rhs", _) (by simp)
      simp only [toJson, ofJson?, variant?_ofFields]
      exact readFields_ofFields <|
        .bind (legible.field (by simp)) <|
        .bind (legible.field_of_read (by simp) (leftHypothesis leftFits)) <|
        .bind (legible.field_of_read (by simp) (rightHypothesis rightFits)) <|
        FieldReader.reads_pure (combine relation left right)

theorem written_toJson (criteria : Criteria) : criteria.toJson.Written := by
  induction criteria with
  | leaf condition => exact written_ofFields (by simp [written_encode])
  | combine relation left right leftHypothesis rightHypothesis =>
      refine written_ofFields ?_
      rw [List.forall_mem_singleton]
      exact written_ofFields (by simp [written_encode, leftHypothesis, rightHypothesis])

end Criteria

instance : LawfulCoding Criteria where
  decode_encode criteria fits := criteria.ofJson?_toJson fits
  written_encode := Criteria.written_toJson

instance : NeverNull Criteria where
  encode_ne_null criteria := by cases criteria <;> exact ofFields_ne_null _

instance : LawfulNamed ShapeKind := ⟨fun value => by cases value <;> rfl⟩

instance : LawfulCoding ShapeConstraint where
  decode_encode constraint fits :=
    readRecord_ofFields (by simp) fits fun legible =>
      .bind (legible.field (by simp)) <|
      .bind (legible.field (by simp)) <|
      .bind (legible.field (by simp)) <|
      FieldReader.reads_pure constraint
  written_encode constraint := written_ofFields (by simp [written_encode])

instance : NeverNull ShapeConstraint where
  encode_ne_null _ := ofFields_ne_null _

instance : LawfulCoding Requirement where
  decode_encode requirement fits :=
    readRecord_ofFields (by simp) fits fun legible =>
      .bind (legible.fieldOrNull (by simp)) <|
      .bind (legible.field (by simp)) <|
      .bind (legible.fieldOrNull (by simp)) <|
      FieldReader.reads_pure requirement
  written_encode requirement := written_ofFields (by simp [written_encode])

end FlightRule
