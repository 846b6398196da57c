import FlightRule.Proofs.Format.Record
import FlightRule.Rule.Compile

/-!
# Fingerprints

A rule record is read back from its text, so that no two records are written alike, and the bytes
under a fingerprint tell all fields of the record.  Two records with one fingerprint are the same
record, or their bytes collide under the digest (`fingerprint_eq_iff`).
-/

namespace FlightRule

/-! ## Bytes of texts -/

namespace Text

theorem toList_loop_eq (bytes : ByteArray) (start : Nat) (done : List UInt8) :
    ByteArray.toList.loop bytes start done = done.reverse ++ bytes.data.toList.drop start := by
  fun_induction ByteArray.toList.loop bytes start done with
  | case1 start done inside inductionHypothesis =>
      have present : start < bytes.data.toList.length := by simpa using inside
      have read : bytes.get! start = bytes.data.toList[start] := by
        simp [ByteArray.get!, getElem!_pos, inside]
      rw [inductionHypothesis, read, List.drop_eq_getElem_cons present]
      simp
  | case2 start done outside =>
      have nothing : bytes.data.toList.length ≤ start := by simpa using outside
      rw [List.drop_eq_nil_of_le nothing, List.append_nil]

/-- Different texts have different bytes. -/
theorem toList_toUTF8_injective :
    Function.Injective fun text : String => text.toUTF8.toList := by
  intro left right same
  have data_eq : left.toUTF8.data.toList = right.toUTF8.data.toList := by
    simpa [ByteArray.toList, toList_loop_eq] using same
  exact String.toByteArray_inj.1 (ByteArray.ext (Array.toList_inj.1 data_eq))

theorem hexDigit_inj {left right : Nat} (leftSmall : left < 16) (rightSmall : right < 16) :
    hexDigit left = hexDigit right ↔ left = right := by
  refine ⟨fun same => ?_, congrArg hexDigit⟩
  rw [← hexValue_hexDigit leftSmall, same, hexValue_hexDigit rightSmall]

/-- Different bytes have different hexadecimal digits. -/
theorem hexOfBytes_injective : Function.Injective hexOfBytes := by
  intro left right same
  rw [hexOfBytes, hexOfBytes, String.ofList_inj] at same
  induction left generalizing right with
  | nil =>
      cases right with
      | nil => rfl
      | cons => simp at same
  | cons byte left inductionHypothesis =>
      cases right with
      | nil => simp at same
      | cons other right =>
          have small := byte.toNat_lt
          have otherSmall := other.toNat_lt
          simp only [List.flatMap_cons, List.cons_append, List.nil_append, List.cons.injEq,
            hexDigit_inj (show byte.toNat / 16 < 16 by omega) (show other.toNat / 16 < 16 by omega),
            hexDigit_inj (show byte.toNat % 16 < 16 by omega) (show other.toNat % 16 < 16 by omega)]
            at same
          obtain ⟨high, low, rest⟩ := same
          rw [inductionHypothesis rest, UInt8.toNat_inj.1 (show byte.toNat = other.toNat by omega)]

end Text

/-- Two different messages with the same first sixteen bytes of their digests. -/
def Digest.Collide (left right : List UInt8) : Prop :=
  left ≠ right ∧ (sha256 left).take 16 = (sha256 right).take 16

namespace RuleRecord

/-- The bytes of the record's written form. -/
def writtenBytes (record : RuleRecord) : List UInt8 :=
  (Json.encode record).text.toUTF8.toList

/-- A record holds slots in an array, and nothing is nested deeper. -/
theorem depth_encode_le (record : RuleRecord) : (Json.encode record).depth ≤ 3 := by
  simp [Json.encode, Json.depth_ofFields_le_iff, Json.depth_array_le_iff, Json.depth_elim_le_iff]

/-- A record is read back from its written form. -/
theorem recordOfText?_text (record : RuleRecord) :
    Json.recordOfText? RuleRecord (Json.encode record).text = some record :=
  Json.recordOfText?_text record (Nat.le_trans (depth_encode_le record) (by decide))

/-- Different records are written in different bytes. -/
theorem writtenBytes_injective : Function.Injective writtenBytes := by
  intro first second same
  have text_eq := Text.toList_toUTF8_injective same
  have read := recordOfText?_text first
  rw [text_eq, recordOfText?_text] at read
  exact (Option.some.inj read).symm

/-- Only a collision of the digest gives two records one fingerprint. -/
theorem fingerprint_eq_iff (first second : RuleRecord) :
    first.fingerprint = second.fingerprint ↔
      first = second ∨ Digest.Collide first.writtenBytes second.writtenBytes := by
  have digests :
      first.fingerprint = second.fingerprint ↔
        (Digest.sha256 first.writtenBytes).take 16 = (Digest.sha256 second.writtenBytes).take 16 :=
    Text.hexOfBytes_injective.eq_iff
  constructor
  · intro same
    by_cases equal : first = second
    · exact .inl equal
    · exact .inr ⟨fun bytes => equal (writtenBytes_injective bytes), digests.1 same⟩
  · rintro (rfl | collide)
    · rfl
    · exact digests.2 collide.2

end RuleRecord

/--
A record is read back from its text, so that two records are written in the same bytes only if they
agree in every field.  Hence records with one fingerprint are compiled to the same demand, reach and
issues, unless their bytes collide under the digest.
-/
theorem fingerprint_covers_record :
    (∀ record : RuleRecord,
      Json.recordOfText? RuleRecord (Json.encode record).text = some record) ∧
    (∀ first second : RuleRecord, first.writtenBytes = second.writtenBytes ↔ first = second) ∧
    (∀ first second : RuleRecord, first.fingerprint = second.fingerprint ↔
      first = second ∨ Digest.Collide first.writtenBytes second.writtenBytes) ∧
    ∀ first second : RuleRecord, first.fingerprint = second.fingerprint →
      ¬Digest.Collide first.writtenBytes second.writtenBytes →
      ∀ use vendor context,
        (first.compile use vendor context).demand = (second.compile use vendor context).demand ∧
          (first.compile use vendor context).reach = (second.compile use vendor context).reach ∧
          (first.compile use vendor context).issues =
            (second.compile use vendor context).issues := by
  refine ⟨RuleRecord.recordOfText?_text, fun _ _ => RuleRecord.writtenBytes_injective.eq_iff,
    RuleRecord.fingerprint_eq_iff, ?_⟩
  intro first second same noCollision use vendor context
  rcases (RuleRecord.fingerprint_eq_iff first second).1 same with rfl | collision
  · exact ⟨rfl, rfl, rfl⟩
  · exact absurd collision noCollision

/-- A record with few fields coded. -/
def sparseRecord : RuleRecord where
  vendor := "ATP"
  itemNo := 42
  application := .must
  slots := { first := .literal "DL" (-1) }

/-- Coding a field with the value that it has anyway changes nothing. -/
theorem fingerprint_of_coded_defaults :
    let coded := { sparseRecord with equipment := "", geo := { use := .blank, viaItem := 0 } }
    coded.fingerprint = sparseRecord.fingerprint ∧
      ¬Digest.Collide coded.writtenBytes sparseRecord.writtenBytes ∧
      (coded.compile .primary "ATP" {}).demand = (sparseRecord.compile .primary "ATP" {}).demand ∧
      (coded.compile .primary "ATP" {}).reach = (sparseRecord.compile .primary "ATP" {}).reach ∧
      (coded.compile .primary "ATP" {}).issues =
        (sparseRecord.compile .primary "ATP" {}).issues := by
  intro coded
  have noCollision : ¬Digest.Collide coded.writtenBytes sparseRecord.writtenBytes :=
    fun collision => collision.1 rfl
  exact ⟨rfl, noCollision,
    fingerprint_covers_record.2.2.2 coded sparseRecord rfl noCollision .primary "ATP" {}⟩

end FlightRule
