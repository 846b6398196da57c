import FlightRule.Proofs.Criteria.Chain

/-!
# What the slots of a record describe

A slot describes flights, and the equipment and the weekdays of a record restrict the segments
that count.  `RuleRecord.Meets` joins both for one slot and one segment.  The slots of a record
compile to conditions that stand for what the slots describe, as soon as every relation joins a
coded slot and the flight tables that are used exist.
-/

namespace FlightRule

/--
A segment's flight is described by what is coded in a slot: by its carrier and flight number, or
by a row of the flight table that it references.  A slot in which nothing is coded describes every
flight.
-/
def Slot.Describes
    (slot : Slot)
    (tables : TableSource)
    (vendor : String)
    (context : Context)
    (segment : Segment) : Prop :=
  slot.isCoded = true →
    if slot.tableItem = 0 then
      (FlightCondition.literal slot.carrier (.ofNumber slot.flight)).accepts context segment = true
    else
      ∃ table ∈ tables vendor slot.tableItem,
        ∃ row ∈ table.rows, (FlightCondition.ofRow row).accepts context segment = true

/-- The segment has the equipment that the record asks for, or not the one it rules out. -/
def RuleRecord.AdmitsEquipment (record : RuleRecord) (segment : Segment) : Prop :=
  Text.trim record.equipment = "" ∨
    (Text.alike (Text.trim segment.equipment) (Text.trim record.equipment) = true ↔
      record.equipmentValidity ≠ .invalid)

/-- The segment departs on one of the record's weekdays, if both are known. -/
def RuleRecord.AdmitsWeekday (record : RuleRecord) (segment : Segment) : Prop :=
  (WeekdaySet.ofText record.days).isEmpty = true ∨
    ∀ day ∈ segment.weekday, (WeekdaySet.ofText record.days).contains day = true

/-- A segment is flown, is described by a slot of the record, and passes the record's filters. -/
def RuleRecord.Meets
    (record : RuleRecord)
    (tables : TableSource)
    (vendor : String)
    (context : Context)
    (slot : Slot)
    (segment : Segment) : Prop :=
  segment.isFlown = true ∧ slot.Describes tables vendor context segment ∧
    record.AdmitsEquipment segment ∧ record.AdmitsWeekday segment

section Decidable

variable
  (record : RuleRecord)
  (tables : TableSource)
  (vendor : String)
  (context : Context)
  (slot : Slot)
  (segment : Segment)

instance : Decidable (slot.Describes tables vendor context segment) :=
  inferInstanceAs (Decidable (_ → if slot.tableItem = 0 then _ = true
    else ∃ table ∈ tables vendor slot.tableItem, ∃ row ∈ table.rows, _ = true))

instance : Decidable (record.AdmitsEquipment segment) :=
  inferInstanceAs (Decidable (_ ∨ (_ ↔ _)))

instance : Decidable (record.AdmitsWeekday segment) :=
  inferInstanceAs (Decidable (_ ∨ ∀ day ∈ segment.weekday, _ = true))

instance : Decidable (record.Meets tables vendor context slot segment) :=
  inferInstanceAs (Decidable (_ ∧ _ ∧ _ ∧ _))

end Decidable

/-- The segment at a position of a journey meets a slot. -/
def RuleRecord.MeetsAt
    (record : RuleRecord)
    (tables : TableSource)
    (vendor : String)
    (context : Context)
    (segments : List Segment)
    (slot : Slot)
    (position : Nat) : Prop :=
  ∃ segment ∈ segments[position]?, record.Meets tables vendor context slot segment

instance
    (record : RuleRecord)
    (tables : TableSource)
    (vendor : String)
    (context : Context)
    (segments : List Segment)
    (slot : Slot)
    (position : Nat) :
    Decidable (record.MeetsAt tables vendor context segments slot position) :=
  inferInstanceAs (Decidable (∃ segment ∈ segments[position]?, _))

/-- The slots that count: the first one, and those that a relation joins to it. -/
def RuleRecord.usedSlots (record : RuleRecord) : List Slot :=
  record.slots.first :: (record.relation1.map fun _ => record.slots.second).toList ++
    (record.relation2.map fun _ => record.slots.third).toList

theorem RuleRecord.second_mem_usedSlots
    {record : RuleRecord}
    (joined : record.relation1.isSome = true) :
    record.slots.second ∈ record.usedSlots := by
  obtain ⟨relation, relation_eq⟩ := Option.isSome_iff_exists.1 joined
  simp [usedSlots, relation_eq]

theorem RuleRecord.third_mem_usedSlots
    {record : RuleRecord}
    (joined : record.relation2.isSome = true) :
    record.slots.third ∈ record.usedSlots := by
  obtain ⟨relation, relation_eq⟩ := Option.isSome_iff_exists.1 joined
  simp [usedSlots, relation_eq]

/-- Every relation joins a coded slot, and the flight tables that are used exist. -/
structure RuleRecord.IsComplete
    (record : RuleRecord)
    (tables : TableSource)
    (vendor : String) : Prop where
  /-- The first relation does not dangle. -/
  second_coded : record.relation1.isSome = true → record.slots.second.isCoded = true
  /-- The second relation does not dangle. -/
  third_coded : record.relation2.isSome = true → record.slots.third.isCoded = true
  /-- The flight tables that are used exist. -/
  tables_found : ∀ slot ∈ record.usedSlots,
    slot.tableItem ≠ 0 → (tables vendor slot.tableItem).isSome = true

/-! ## Conditions of slots -/

/-- A condition holds of the flown segments that a slot describes. -/
def Condition.StandsFor
    (condition : Condition)
    (slot : Slot)
    (tables : TableSource)
    (vendor : String) : Prop :=
  ∀ context segment, condition.accepts context segment = true ↔
    segment.isFlown = true ∧ slot.Describes tables vendor context segment

variable {context : Context} {vendor : String}

theorem TableCondition.accepts_ofTable_iff {table : FlightTable} {segment : Segment} :
    (TableCondition.ofTable table).accepts context segment = true ↔
      segment.isFlown = true ∧
        ∃ row ∈ table.rows, (FlightCondition.ofRow row).accepts context segment = true := by
  simp [TableCondition.accepts, TableCondition.ofTable]

/-- A slot without a missing flight table has a condition, which stands for it if it is coded. -/
theorem Slot.exists_condition
    (slot : Slot)
    (found : slot.tableItem ≠ 0 → (context.tables vendor slot.tableItem).isSome = true) :
    ∃ condition, (slot.condition context vendor).result = .ok condition ∧
      (slot.isCoded = true → condition.StandsFor slot context.tables vendor) := by
  unfold Slot.condition
  by_cases noTable : slot.tableItem = 0
  · rw [if_pos noTable]
    refine ⟨_, rfl, fun coded evaluation segment => ?_⟩
    simp only [Slot.Describes, coded, noTable, if_true, true_imp_iff]
    exact ⟨fun accepted => ⟨Condition.isFlown_of_accepts accepted, accepted⟩, fun both => both.2⟩
  · rw [if_neg noTable]
    obtain ⟨table, table_eq⟩ := Option.isSome_iff_exists.1 (found noTable)
    rw [table_eq]
    refine ⟨_, rfl, fun coded evaluation segment => ?_⟩
    simp only [Slot.Describes, coded, noTable, if_false, true_imp_iff, table_eq,
      Option.mem_def, Option.some.injEq, exists_eq_left']
    exact TableCondition.accepts_ofTable_iff

/--
A slot that is coded where a relation joins it, with its flight table present, is compiled to a
condition that stands for it.
-/
theorem Slot.exists_joined
    (slot : Slot)
    (relation : Option Relation)
    (position : Nat)
    (coded : relation.isSome = true → slot.isCoded = true)
    (found : relation.isSome = true →
      slot.tableItem ≠ 0 → (context.tables vendor slot.tableItem).isSome = true) :
    ∃ condition,
      (slot.joined relation position context vendor).result =
        .ok (relation.map fun relation => (relation, condition)) ∧
      (relation.isSome = true → condition.StandsFor slot context.tables vendor) := by
  unfold Slot.joined
  cases relation with
  | none =>
      refine ⟨.anyFlown, ?_, by simp⟩
      cases slot.isCoded <;> rfl
  | some relation =>
      obtain ⟨condition, built, stands⟩ := slot.exists_condition (found rfl)
      refine ⟨condition, ?_, fun _ => stands (coded rfl)⟩
      rw [coded rfl]
      exact Build.result_bind_of_ok built _

/-- The first slot is compiled to a condition that stands for it, if its flight table is present. -/
theorem RuleRecord.exists_firstCondition
    (record : RuleRecord)
    (found : record.slots.first.tableItem ≠ 0 →
      (context.tables vendor record.slots.first.tableItem).isSome = true) :
    ∃ condition, (record.firstCondition context vendor).result = .ok condition ∧
      condition.StandsFor record.slots.first context.tables vendor := by
  unfold RuleRecord.firstCondition
  cases coded : record.slots.first.isCoded with
  | false =>
      refine ⟨.anyFlown, ?_, fun evaluation segment => ?_⟩
      · cases record.slots.second.isCoded || record.slots.third.isCoded <;> rfl
      · simp [Condition.accepts, Slot.Describes, coded]
  | true =>
      obtain ⟨condition, built, stands⟩ := record.slots.first.exists_condition found
      exact ⟨condition, built, stands coded⟩

/-- Conditions that stand for the slots of a record, as far as the slots count. -/
structure RuleRecord.Conditions
    (record : RuleRecord)
    (tables : TableSource)
    (vendor : String) where
  first : Condition
  second : Condition
  third : Condition
  first_stands : first.StandsFor record.slots.first tables vendor
  second_stands : record.relation1.isSome = true →
    second.StandsFor record.slots.second tables vendor
  third_stands : record.relation2.isSome = true →
    third.StandsFor record.slots.third tables vendor

/-- The conditions, joined by the relations of the record. -/
def RuleRecord.Conditions.criteria
    {record : RuleRecord}
    {tables : TableSource}
    (conditions : record.Conditions tables vendor) : Criteria :=
  .chainBy record.relation1 record.relation2 conditions.first conditions.second conditions.third

/-- A complete record without range has criteria that join conditions for its slots. -/
theorem RuleRecord.exists_conditions
    {record : RuleRecord}
    (noRange : record.application.isRange = false)
    (complete : record.IsComplete context.tables vendor) :
    ∃ conditions : record.Conditions context.tables vendor,
      (record.criteria context vendor).result = .ok conditions.criteria := by
  obtain ⟨first, firstBuilt, first_stands⟩ := record.exists_firstCondition
    (complete.tables_found record.slots.first (by simp [usedSlots]))
  obtain ⟨second, secondBuilt, second_stands⟩ := record.slots.second.exists_joined
    record.relation1 1 complete.second_coded fun joined =>
      complete.tables_found record.slots.second (second_mem_usedSlots joined)
  obtain ⟨third, thirdBuilt, third_stands⟩ := record.slots.third.exists_joined
    record.relation2 2 complete.third_coded fun joined =>
      complete.tables_found record.slots.third (third_mem_usedSlots joined)
  refine ⟨⟨first, second, third, first_stands, second_stands, third_stands⟩, ?_⟩
  simp only [criteria, readsRange, noRange, Bool.false_and, Bool.false_eq_true, if_false]
  rw [Build.result_bind_of_ok firstBuilt, Build.result_bind_of_ok secondBuilt,
    Build.result_bind_of_ok thirdBuilt]
  rfl

/-! ## Filters -/

/-- The filters of a record admit its equipment and its weekdays. -/
theorem RuleRecord.forall_filters_accept_iff (record : RuleRecord) (segment : Segment) :
    (∀ filter ∈ record.filters, filter.accepts segment = true) ↔
      record.AdmitsEquipment segment ∧ record.AdmitsWeekday segment := by
  have equipment :
      (∀ filter ∈ if Text.trim record.equipment = "" then []
          else [SegmentFilter.equipment (Text.trim record.equipment)
            (if record.equipmentValidity = .blank then .valid else record.equipmentValidity)],
        filter.accepts segment = true) ↔ record.AdmitsEquipment segment := by
    unfold AdmitsEquipment
    by_cases blank : Text.trim record.equipment = ""
    · simp [blank]
    · cases validity : record.equipmentValidity <;>
        simp [blank, SegmentFilter.accepts]
  have weekday :
      (∀ filter ∈ if (WeekdaySet.ofText record.days).isEmpty then []
          else [SegmentFilter.days (WeekdaySet.ofText record.days)],
        filter.accepts segment = true) ↔ record.AdmitsWeekday segment := by
    unfold AdmitsWeekday
    cases (WeekdaySet.ofText record.days).isEmpty <;>
      cases departure : segment.weekday <;>
      simp [SegmentFilter.accepts, departure]
  rw [← equipment, ← weekday, filters]
  simp only [List.mem_append, or_imp, forall_and]

/-- A condition that stands for a slot matches the segments that meet the slot. -/
theorem RuleRecord.matches_iff_meets
    {record : RuleRecord}
    {condition : Condition}
    {slot : Slot}
    {tables : TableSource}
    (stands : condition.StandsFor slot tables vendor)
    {segment : Segment} :
    Criteria.Matches condition record.filters context segment ↔
      record.Meets tables vendor context slot segment := by
  rw [Criteria.Matches, Meets, stands context segment, forall_filters_accept_iff]
  constructor
  · rintro ⟨flown, ⟨_, describes⟩, admits⟩
    exact ⟨flown, describes, admits⟩
  · rintro ⟨flown, describes, admits⟩
    exact ⟨flown, ⟨flown, describes⟩, admits⟩

end FlightRule
