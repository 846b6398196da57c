import FlightRule.Proofs.Geo.Resolution
import FlightRule.Rule.Compile

/-!
# Defects of a record

A record whose data are available is walked through from left to right, and the first defect that
is met gives the rule its fixed outcome, `RuleRecord.firstDefect`.  Compilation stops at this
defect (`RuleRecord.defect?_requirement`), and every step of it reports the defect that ends it and
no other (`Build.ReportsDefect`).  So the issues of a rule name exactly the defect that fixed its
outcome (`RuleRecord.defectIssues_compile`).
-/

namespace FlightRule

/-! ## The walk through a record -/

/-- The defect of a slot that references a flight table which does not exist. -/
def Slot.tableDefect? (slot : Slot) (tables : TableSource) (vendor : String) : Option Defect :=
  if slot.tableItem ≠ 0 ∧ (tables vendor slot.tableItem).isNone then
    some (.missingTable vendor slot.tableItem)
  else none

/--
The first defect of a slot that a relation joins to the slots before it: nothing is coded in it, or
else its flight table does not exist.  Without the relation there is no defect.
-/
def Slot.joinDefect?
    (slot : Slot)
    (relation : Option Relation)
    (position : Nat)
    (tables : TableSource)
    (vendor : String) : Option Defect :=
  relation.bind fun _ =>
    if slot.isCoded then slot.tableDefect? tables vendor
    else some (.danglingRelation position)

namespace RuleRecord

/--
The first two slots are the ends of a range: the application is one of a range, and they reference
no flight table or the tables do not matter.
-/
def SpansRange (record : RuleRecord) (settings : Settings) : Prop :=
  record.application.isRange = true ∧
    (record.slots.first.tableItem = 0 ∧ record.slots.second.tableItem = 0 ∨
      settings.rangeWithTableAsPlain = false)

instance (record : RuleRecord) (settings : Settings) : Decidable (record.SpansRange settings) :=
  inferInstanceAs (Decidable (_ ∧ (_ ∧ _ ∨ _)))

/--
The first defect of a record, from left to right.  The ends of a range have none, and a record
without application has none at all.
-/
def firstDefect (record : RuleRecord) (context : Context) (vendor : String) : Option Defect :=
  let ofEnds :=
    (record.slots.first.tableDefect? context.tables vendor).or
      (record.slots.second.joinDefect? record.relation1 1 context.tables vendor)
  if record.application = .blank then none
  else
    (if record.SpansRange context.settings then none else ofEnds).or
      (record.slots.third.joinDefect? record.relation2 2 context.tables vendor)

/-- The compiler reads a range exactly where the first two slots are its ends. -/
theorem readsRange_eq_true_iff {record : RuleRecord} {settings : Settings} :
    record.readsRange settings = true ↔ record.SpansRange settings := by
  unfold readsRange SpansRange rangeHasTable
  cases settings.rangeWithTableAsPlain <;> simp

end RuleRecord

/-- The issue is a flight table that does not exist. -/
def Issue.isUnresolvedTable : Issue → Bool
  | unresolvedTable _ _ => true
  | _ => false

/-- The issue is one that a defect leaves. -/
def Issue.isOfDefect : Issue → Bool
  | unresolvedTable _ _ | danglingRelation _ => true
  | _ => false

/-- A missing flight table is a defect. -/
theorem Issue.filter_isUnresolvedTable_filter_isOfDefect (issues : List Issue) :
    (issues.filter isOfDefect).filter isUnresolvedTable = issues.filter isUnresolvedTable := by
  rw [List.filter_filter]
  refine List.filter_congr fun issue _ => ?_
  cases issue <;> rfl

/-! ## Steps of compilation -/

namespace Build

variable {α β : Type}

/-- The defect that ends a step, if one does. -/
def defect? (build : Build α) : Option Defect :=
  match build.result with
  | .error defect => some defect
  | .ok _ => none

/-- The issues of a step name the defect that ends it, if one does, and no other defect. -/
def ReportsDefect (build : Build α) : Prop :=
  build.issues.filter Issue.isOfDefect = (build.defect?.map Defect.issue).toList

variable {first : Build α} {next : α → Build β}

/-- What two steps build is built by the second one from what the first one builds. -/
theorem result_bind_eq_ok_iff {built : β} :
    (first >>= next).result = .ok built ↔
      ∃ value, first.result = .ok value ∧ (next value).result = .ok built := by
  rw [result_bind]
  cases first.result with
  | error found => simp [bind, Except.bind]
  | ok value => simp [bind, Except.bind]

theorem result_map (build : Build α) (change : α → β) :
    (change <$> build).result = build.result.map change := by
  refine (result_bind build (pure ∘ change)).trans ?_
  cases build.result <;> rfl

theorem issues_bind (first : Build α) (next : α → Build β) :
    (first >>= next).issues =
      match first.result with
      | .error _ => first.issues
      | .ok value => first.issues ++ (next value).issues := by
  change (match first.result with
    | .error defect => (⟨.error defect, first.issues⟩ : Build β)
    | .ok value => ⟨(next value).result, first.issues ++ (next value).issues⟩).issues = _
  cases first.result <;> rfl

/-- Of two steps, the first one with a defect ends both. -/
theorem defect?_bind
    {defect : Option Defect}
    (next_eq : ∀ value, (next value).defect? = defect) :
    (first >>= next).defect? = first.defect?.or defect := by
  unfold defect?
  rw [result_bind]
  cases first.result with
  | error found => rfl
  | ok value => exact next_eq value

/-- Steps without a defect do not matter behind others. -/
theorem defect?_bind_of_none (next_eq : ∀ value, (next value).defect? = none) :
    (first >>= next).defect? = first.defect? := by
  rw [defect?_bind next_eq, Option.or_none]

theorem reportsDefect_done (value : α) : (done value).ReportsDefect := rfl

theorem reportsDefect_stop (defect : Defect) : (stop defect : Build α).ReportsDefect := by
  cases defect <;> rfl

theorem reportsDefect_note
    {issues : List Issue}
    (noDefects : ∀ issue ∈ issues, issue.isOfDefect = false) :
    (note issues).ReportsDefect := by
  change issues.filter _ = []
  rw [List.filter_eq_nil_iff]
  intro issue member
  simp [noDefects issue member]

/-- Two steps report the defect that ends the first of them, and else that of the second. -/
theorem ReportsDefect.bind
    (firstReports : first.ReportsDefect)
    (nextReports : ∀ value, (next value).ReportsDefect) :
    (first >>= next).ReportsDefect := by
  unfold ReportsDefect defect? at *
  rw [result_bind, issues_bind]
  cases built : first.result with
  | error found =>
      rw [built] at firstReports
      exact firstReports
  | ok value =>
      rw [built] at firstReports
      simp only [List.filter_append, firstReports, nextReports value]
      rfl

end Build

variable {context : Context} {vendor : String}

namespace Slot

/-- The condition of a slot ends with its missing flight table. -/
theorem defect?_condition (slot : Slot) :
    (slot.condition context vendor).defect? = slot.tableDefect? context.tables vendor := by
  unfold condition tableDefect?
  by_cases noTable : slot.tableItem = 0
  · simp [noTable, Build.defect?, Build.done]
  · cases found : context.tables vendor slot.tableItem with
    | none => simp [noTable, Build.defect?, Build.stop]
    | some table => simp [noTable, Build.defect?, Build.done]

theorem reportsDefect_condition (slot : Slot) :
    (slot.condition context vendor).ReportsDefect := by
  unfold condition
  split
  · exact Build.reportsDefect_done _
  · split
    · exact Build.reportsDefect_done _
    · exact Build.reportsDefect_stop _

theorem defect?_joined (slot : Slot) (relation : Option Relation) (position : Nat) :
    (slot.joined relation position context vendor).defect? =
      slot.joinDefect? relation position context.tables vendor := by
  unfold joined joinDefect?
  cases relation with
  | none => cases slot.isCoded <;> rfl
  | some relation =>
      cases slot.isCoded with
      | false => rfl
      | true =>
          simp only [Option.bind_some, if_true]
          rw [Build.defect?_bind_of_none fun _ => rfl, slot.defect?_condition]

theorem reportsDefect_joined (slot : Slot) (relation : Option Relation) (position : Nat) :
    (slot.joined relation position context vendor).ReportsDefect := by
  unfold joined
  cases relation with
  | none => cases slot.isCoded <;> rfl
  | some relation =>
      cases slot.isCoded with
      | false => exact Build.reportsDefect_stop _
      | true => exact slot.reportsDefect_condition.bind fun _ => Build.reportsDefect_done _

/-- Nothing coded in a slot means that no flight table is missing either. -/
theorem tableDefect?_of_not_isCoded
    {slot : Slot}
    (notCoded : slot.isCoded = false)
    (tables : TableSource) :
    slot.tableDefect? tables vendor = none := by
  have noTable : slot.tableItem = 0 := by
    simp only [isCoded, Bool.or_eq_false_iff, bne_eq_false_iff_eq] at notCoded
    exact notCoded.1.1
  simp [tableDefect?, noTable]

end Slot

namespace RuleRecord

variable (record : RuleRecord)

theorem defect?_firstCondition :
    (record.firstCondition context vendor).defect? =
      record.slots.first.tableDefect? context.tables vendor := by
  unfold firstCondition
  cases coded : record.slots.first.isCoded with
  | true => exact record.slots.first.defect?_condition
  | false =>
      rw [Slot.tableDefect?_of_not_isCoded coded]
      cases record.slots.second.isCoded || record.slots.third.isCoded <;> rfl

theorem reportsDefect_firstCondition :
    (record.firstCondition context vendor).ReportsDefect := by
  unfold firstCondition
  cases record.slots.first.isCoded with
  | true => exact record.slots.first.reportsDefect_condition
  | false => cases record.slots.second.isCoded || record.slots.third.isCoded <;> rfl

/-- The condition of a range is that of its first carrier, whatever the second one is. -/
theorem result_rangeCondition :
    record.rangeCondition.result =
      .ok (.flight (.literal (Text.trim record.slots.first.carrier)
        (.ofRange record.slots.first.flight record.slots.second.flight))) := by
  unfold rangeCondition
  dsimp only
  split <;> rfl

theorem defect?_rangeCondition : record.rangeCondition.defect? = none := by
  rw [Build.defect?, result_rangeCondition]

theorem reportsDefect_rangeCondition : record.rangeCondition.ReportsDefect := by
  unfold rangeCondition
  dsimp only
  split <;> rfl

/-- The criteria of a record, with the issue of a range with tables noted in any case. -/
theorem criteria_eq :
    record.criteria context vendor = do
      Build.note (if record.application.isRange && record.rangeHasTable then [.rangeWithTable]
        else [])
      if record.readsRange context.settings then do
        let first ← record.rangeCondition
        let third ← record.slots.third.joined record.relation2 2 context vendor
        return .chain first none third
      else do
        let first ← record.firstCondition context vendor
        let second ← record.slots.second.joined record.relation1 1 context vendor
        let third ← record.slots.third.joined record.relation2 2 context vendor
        return .chain first second third := by
  unfold criteria
  cases record.application.isRange && record.rangeHasTable <;> rfl

/-- The criteria of a record end with its first defect. -/
theorem defect?_criteria (notBlank : record.application ≠ .blank) :
    (record.criteria context vendor).defect? = record.firstDefect context vendor := by
  rw [criteria_eq, firstDefect, if_neg notBlank]
  have third_eq (chain : Option (Relation × Condition) → Criteria) :
      (do
        let third ← record.slots.third.joined record.relation2 2 context vendor
        return chain third : Build Criteria).defect? =
        record.slots.third.joinDefect? record.relation2 2 context.tables vendor := by
    rw [Build.defect?_bind_of_none fun _ => rfl, Slot.defect?_joined]
  refine (Build.defect?_bind fun _ => ?_).trans (Option.none_or ..)
  by_cases range : record.readsRange context.settings = true
  · rw [if_pos range, if_pos (readsRange_eq_true_iff.1 range),
      Build.defect?_bind fun _ => third_eq _, defect?_rangeCondition]
  · rw [if_neg range, if_neg (mt readsRange_eq_true_iff.2 range), Option.or_assoc,
      Build.defect?_bind fun _ => Build.defect?_bind fun _ => third_eq _, defect?_firstCondition,
      Slot.defect?_joined]

theorem reportsDefect_criteria : (record.criteria context vendor).ReportsDefect := by
  have third_reports (chain : Option (Relation × Condition) → Criteria) :
      (do
        let third ← record.slots.third.joined record.relation2 2 context vendor
        return chain third : Build Criteria).ReportsDefect :=
    (Slot.reportsDefect_joined _ _ _).bind fun _ => Build.reportsDefect_done _
  rw [criteria_eq]
  refine (Build.reportsDefect_note ?_).bind fun _ => ?_
  · split <;> simp [Issue.isOfDefect]
  · split
    · exact record.reportsDefect_rangeCondition.bind fun _ => third_reports _
    · exact record.reportsDefect_firstCondition.bind fun _ =>
        (Slot.reportsDefect_joined _ _ _).bind fun _ => third_reports _

/-- The requirement of a record, with its criteria as the first step in any case. -/
theorem requirement_eq :
    record.requirement context vendor = do
      let criteria ←
        (if record.application = .blank then pure none
          else some <$> record.criteria context vendor : Build (Option Criteria))
      Build.note ((WeekdaySet.strayChars record.days).map .invalidDay)
      return {
        criteria
        filters := record.filters
        shape := ShapeConstraint.ofFlags record.shape record.geo.hidden } := by
  unfold requirement
  by_cases blank : record.application = .blank
  · simp only [blank, if_true]
  · simp only [blank, if_false]

/-- What a record requires, read off what it asks of flights. -/
theorem result_requirement :
    (record.requirement context vendor).result =
      (if record.application = .blank then .ok none
        else (record.criteria context vendor).result.map some).map fun criteria => {
          criteria
          filters := record.filters
          shape := ShapeConstraint.ofFlags record.shape record.geo.hidden } := by
  rw [requirement_eq]
  split
  · rfl
  · rw [Build.result_bind, Build.result_map]
    cases (record.criteria context vendor).result <;> rfl

/-- The compilation of a record ends with its first defect. -/
theorem defect?_requirement :
    (record.requirement context vendor).defect? = record.firstDefect context vendor := by
  rw [requirement_eq, Build.defect?_bind_of_none fun _ => rfl]
  by_cases blank : record.application = .blank
  · rw [if_pos blank, firstDefect, if_pos blank]
    rfl
  · rw [if_neg blank, ← record.defect?_criteria blank]
    exact Build.defect?_bind_of_none fun _ => rfl

/-- The compilation of a record reports its first defect and no other. -/
theorem reportsDefect_requirement : (record.requirement context vendor).ReportsDefect := by
  rw [requirement_eq]
  refine Build.ReportsDefect.bind ?_ fun criteria => ?_
  · split
    · exact Build.reportsDefect_done _
    · exact record.reportsDefect_criteria.bind fun _ => Build.reportsDefect_done _
  · refine (Build.reportsDefect_note ?_).bind fun _ => Build.reportsDefect_done _
    intro issue member
    obtain ⟨char, _, rfl⟩ := List.mem_map.1 member
    rfl

/-! ## Rules with a fixed outcome -/

/--
The first defect of a record whose data are available gives the rule a fixed outcome; without a
defect the rule has a requirement.
-/
theorem demand_of_available
    (context : Context)
    (vendor : String)
    (available : record.availability = .available) :
    match record.firstDefect context vendor with
    | none => ∃ requirement, (record.demand context vendor).1 = .requires requirement
    | some defect => (record.demand context vendor).1 = .fixed defect.outcome := by
  rw [← defect?_requirement, Build.defect?]
  simp only [demand, available]
  cases (record.requirement context vendor).result with
  | error defect => rfl
  | ok requirement => exact ⟨requirement, rfl⟩

/-- A rule that requires something has available data, which are compiled without a defect. -/
theorem result_requirement_of_demand
    {requirement : Requirement}
    (demand_eq : (record.demand context vendor).1 = .requires requirement) :
    (record.requirement context vendor).result = .ok requirement := by
  unfold demand at demand_eq
  cases available : record.availability with
  | dataUnavailable => simp [available] at demand_eq
  | textOnly => simp [available] at demand_eq
  | available =>
      cases result_eq : (record.requirement context vendor).result with
      | error defect => simp [available, result_eq] at demand_eq
      | ok value => simpa [available, result_eq] using demand_eq

/-! ## The issues of a rule -/

/-- What is asked of flights is compiled with the first defect of the record as its issue. -/
theorem defectIssues_demand
    (context : Context)
    (vendor : String)
    (available : record.availability = .available) :
    (record.demand context vendor).2.filter Issue.isOfDefect =
      ((record.firstDefect context vendor).map Defect.issue).toList := by
  have issues_eq :
      (record.demand context vendor).2 = (record.requirement context vendor).issues := by
    simp only [demand, available]
    cases (record.requirement context vendor).result <;> rfl
  rw [issues_eq, record.reportsDefect_requirement, defect?_requirement]

/-- Places that cannot be resolved are no defect. -/
theorem defectIssues_reach (context : Context) (vendor : String) :
    (record.reach context vendor).2.filter Issue.isOfDefect = [] := by
  unfold reach
  cases failed : GeoScope.resolve context vendor record.geo with
  | ok scope => rfl
  | error issue =>
      obtain ⟨item, _, lacks⟩ := GeoScope.exists_lacks_of_resolve failed
      cases lacks with
      | item missing => rfl
      | tripStructure present bounded missing => rfl

/-- Where the data of a record are not available, its compilation meets no defect. -/
theorem defectIssues_compile_of_not_available
    (use : RuleUse)
    (context : Context)
    (vendor : String)
    (notAvailable : record.availability ≠ .available) :
    (record.compile use vendor context).issues.filter Issue.isOfDefect = [] := by
  change ((record.demand context vendor).2 ++ (record.reach context vendor).2).filter _ = _
  rw [List.filter_append, record.defectIssues_reach, List.append_nil, demand]
  cases availability : record.availability with
  | available => exact absurd availability notAvailable
  | dataUnavailable => rfl
  | textOnly => rfl

/--
The issues of a rule whose data are available name the first defect of its record and no other: a
rule with a missing flight table has that table as an issue, and a rule that passes because of a
relation that joins nothing has the position of this relation.
-/
theorem defectIssues_compile
    (use : RuleUse)
    (context : Context)
    (vendor : String)
    (available : record.availability = .available) :
    (record.compile use vendor context).issues.filter Issue.isOfDefect =
      ((record.firstDefect context vendor).map Defect.issue).toList := by
  change ((record.demand context vendor).2 ++ (record.reach context vendor).2).filter _ = _
  rw [List.filter_append, record.defectIssues_reach, List.append_nil,
    record.defectIssues_demand context vendor available]

end RuleRecord

/-! ## The fixed outcome and the missing table -/

theorem Slot.vendor_of_tableDefect?
    {slot : Slot}
    {tables : TableSource}
    {owner : String}
    {item : UInt32}
    (missing : slot.tableDefect? tables vendor = some (.missingTable owner item)) :
    owner = vendor := by
  unfold tableDefect? at missing
  split at missing
  · cases missing
    rfl
  · cases missing

theorem Slot.vendor_of_joinDefect?
    {slot : Slot}
    {relation : Option Relation}
    {position : Nat}
    {tables : TableSource}
    {owner : String}
    {item : UInt32}
    (missing : slot.joinDefect? relation position tables vendor = some (.missingTable owner item)) :
    owner = vendor := by
  unfold joinDefect? at missing
  cases relation with
  | none => cases missing
  | some relation =>
      rw [Option.bind_some] at missing
      split at missing
      · exact vendor_of_tableDefect? missing
      · cases missing

/-- A flight table is missed under the vendor that the rule is compiled for. -/
theorem RuleRecord.vendor_of_firstDefect
    {record : RuleRecord}
    {owner : String}
    {item : UInt32}
    (missing : record.firstDefect context vendor = some (.missingTable owner item)) :
    owner = vendor := by
  unfold firstDefect at missing
  split at missing
  · cases missing
  · rcases Option.or_eq_some_iff.1 missing with ofEnds | ⟨_, ofThird⟩
    · split at ofEnds
      · cases ofEnds
      · rcases Option.or_eq_some_iff.1 ofEnds with ofFirst | ⟨_, ofSecond⟩
        · exact Slot.vendor_of_tableDefect? ofFirst
        · exact Slot.vendor_of_joinDefect? ofSecond
    · exact Slot.vendor_of_joinDefect? ofThird

/--
The first defect of a record whose data are available gives the rule its fixed outcome: fail for a
flight table that does not exist, and pass for a relation that joins nothing.  Without a defect the
rule has a requirement.  A rule has one missing table among its issues if a missing table is the
first defect, and else none; a relation that joins nothing is among them in the same way
(`RuleRecord.defectIssues_compile`).  Where the data of a record are not available, its criteria
play no part.
-/
theorem compile_degrades_at_first_defect
    (record : RuleRecord)
    (use : RuleUse)
    (vendor : String)
    (context : Context) :
    let rule := record.compile use vendor context
    let unresolved := rule.issues.filter Issue.isUnresolvedTable
    (record.availability = .available →
      match record.firstDefect context vendor with
      | none => (∃ requirement, rule.demand = .requires requirement) ∧ unresolved = []
      | some (.danglingRelation _) => rule.demand = .fixed .pass ∧ unresolved = []
      | some (.missingTable _ item) =>
          rule.demand = .fixed .fail ∧ unresolved = [.unresolvedTable vendor item]) ∧
    (record.availability = .dataUnavailable → rule.demand = .fixed .fail) ∧
    (record.availability = .textOnly → rule.demand = .fixed .skip) ∧
    (record.availability ≠ .available →
      unresolved = [] ∧
      ∀ slots relation1 relation2,
        let other : RuleRecord := { record with slots, relation1, relation2 }
        (other.compile use vendor context).demand = rule.demand ∧
          (other.compile use vendor context).issues = rule.issues) := by
  intro rule unresolved
  have unresolved_eq :
      unresolved = (rule.issues.filter Issue.isOfDefect).filter Issue.isUnresolvedTable :=
    (Issue.filter_isUnresolvedTable_filter_isOfDefect _).symm
  refine ⟨?_, ?_, ?_, ?_⟩
  · intro available
    have demand_eq := record.demand_of_available context vendor available
    rw [record.defectIssues_compile use context vendor available] at unresolved_eq
    cases defect_eq : record.firstDefect context vendor with
    | none =>
        rw [defect_eq] at demand_eq unresolved_eq
        exact ⟨demand_eq, unresolved_eq⟩
    | some defect =>
        rw [defect_eq] at demand_eq unresolved_eq
        cases defect with
        | danglingRelation position => exact ⟨demand_eq, unresolved_eq⟩
        | missingTable owner item =>
            obtain rfl : owner = vendor := RuleRecord.vendor_of_firstDefect defect_eq
            exact ⟨demand_eq, unresolved_eq⟩
  · intro unavailable
    simp only [rule, RuleRecord.compile, RuleRecord.demand, unavailable]
  · intro textOnly
    simp only [rule, RuleRecord.compile, RuleRecord.demand, textOnly]
  · intro notAvailable
    rw [record.defectIssues_compile_of_not_available use context vendor notAvailable]
      at unresolved_eq
    refine ⟨unresolved_eq, fun slots relation1 relation2 => ?_⟩
    simp only [rule, RuleRecord.compile, RuleRecord.demand, RuleRecord.reach]
    cases availability : record.availability with
    | available => exact absurd availability notAvailable
    | dataUnavailable => exact ⟨rfl, rfl⟩
    | textOnly => exact ⟨rfl, rfl⟩

/-- Some slot with a relation that joins nothing to it, and a missing table behind it. -/
def brokenTwice (first : Slot) : RuleRecord where
  vendor := "ATP"
  itemNo := 1
  application := .must
  slots := { first, third := .table 7 }
  relation1 := some .and
  relation2 := some .or

/-- The relation hides the missing table behind it, but not a missing table before it. -/
theorem compile_of_broken_twice :
    let afterCarrier := (brokenTwice (.literal "DL" (-1))).compile .primary "YY" {}
    let afterTable := (brokenTwice (.table 5)).compile .primary "YY" {}
    (afterCarrier.demand = .fixed .pass ∧
      afterCarrier.issues.filter Issue.isUnresolvedTable = []) ∧
    afterTable.demand = .fixed .fail ∧
      afterTable.issues.filter Issue.isUnresolvedTable = [.unresolvedTable "YY" 5] := by
  intro afterCarrier afterTable
  constructor
  · exact (compile_degrades_at_first_defect (brokenTwice (.literal "DL" (-1))) .primary "YY" {}).1
      rfl
  · exact (compile_degrades_at_first_defect (brokenTwice (.table 5)) .primary "YY" {}).1 rfl

end FlightRule
