import Mathlib.Logic.Relation
import FlightRule.Proofs.Rule.Agreement
import FlightRule.Proofs.Rule.References

/-!
# Fields that compilation does not read

Some fields of a record mean nothing beside its other fields, such as a slot without a relation, or
the places of a record that is not restricted to places (`RuleRecord.UnreadChange`).  Compilation
does not look up what such a field references.  Records that differ in unread fields only are
compiled to the same rule, but for its name and for warnings (`compile_of_unread_changes`).

A step of compilation is compared with the same step for another record by what it builds and by the
issues that degrade the rule (`Build.SameUpToWarnings`).
-/

namespace FlightRule

/-! ## Warnings -/

/-- The issue gives the rule a fixed outcome, or makes it apply nowhere. -/
def Issue.degrades : Issue → Bool
  | unresolvedTable _ _ => true
  | unresolvedGeoItem _ _ => true
  | unresolvedTripStructure _ => true
  | danglingRelation _ => true
  | missingFirstSlot => false
  | orphanSlot _ => false
  | rangeCarrierMismatch _ _ => false
  | rangeWithTable => false
  | invalidDay _ => false

namespace Build

variable {α β : Type}

/-- Two steps of compilation build the same and degrade the rule alike. -/
structure SameUpToWarnings (step other : Build α) : Prop where
  result_eq : step.result = other.result
  degrading_eq : step.issues.filter Issue.degrades = other.issues.filter Issue.degrades

namespace SameUpToWarnings

theorem refl (step : Build α) : step.SameUpToWarnings step := ⟨rfl, rfl⟩

theorem bind
    {step other : Build α}
    {next otherNext : α → Build β}
    (same : step.SameUpToWarnings other)
    (nextSame : ∀ value, (next value).SameUpToWarnings (otherNext value)) :
    (step >>= next).SameUpToWarnings (other >>= otherNext) := by
  constructor
  · rw [result_bind, result_bind, same.result_eq]
    cases other.result with
    | error defect => rfl
    | ok value => exact (nextSame value).result_eq
  · rw [issues_bind, issues_bind, same.result_eq]
    cases other.result with
    | error defect => exact same.degrading_eq
    | ok value =>
        simp only [List.filter_append, same.degrading_eq, (nextSame value).degrading_eq]

end SameUpToWarnings

theorem note_sameUpToWarnings
    {issues others : List Issue}
    (warnings : issues.filter Issue.degrades = [])
    (otherWarnings : others.filter Issue.degrades = []) :
    (note issues).SameUpToWarnings (note others) :=
  ⟨rfl, warnings.trans otherWarnings.symm⟩

end Build

variable {context : Context} {vendor : String}

/-- A slot without a relation adds nothing but a warning, whatever is coded in it. -/
theorem Slot.joined_none_sameUpToWarnings (slot other : Slot) (position : Nat) :
    (slot.joined none position context vendor).SameUpToWarnings
      (other.joined none position context vendor) := by
  unfold joined
  cases slot.isCoded <;> cases other.isCoded <;> exact ⟨rfl, rfl⟩

namespace RuleRecord

variable {record other : RuleRecord}

/-- Besides the first slot, the first condition depends on the slots by a warning only. -/
theorem firstCondition_sameUpToWarnings
    (first_eq : other.slots.first = record.slots.first) :
    (record.firstCondition context vendor).SameUpToWarnings
      (other.firstCondition context vendor) := by
  unfold firstCondition
  rw [first_eq]
  cases record.slots.first.isCoded with
  | true => exact .refl _
  | false =>
      cases record.slots.second.isCoded || record.slots.third.isCoded <;>
        cases other.slots.second.isCoded || other.slots.third.isCoded <;>
          exact ⟨rfl, rfl⟩

/-- The second carrier of a range is good for a warning only. -/
theorem rangeCondition_sameUpToWarnings
    (carrier_eq : other.slots.first.carrier = record.slots.first.carrier)
    (firstFlight_eq : other.slots.first.flight = record.slots.first.flight)
    (secondFlight_eq : other.slots.second.flight = record.slots.second.flight) :
    record.rangeCondition.SameUpToWarnings other.rangeCondition := by
  have onlyWarns (record : RuleRecord) :
      record.rangeCondition.issues.filter Issue.degrades = [] := by
    unfold rangeCondition
    dsimp only
    split <;> rfl
  constructor
  · rw [result_rangeCondition, result_rangeCondition, carrier_eq, firstFlight_eq, secondFlight_eq]
  · rw [onlyWarns record, onlyWarns other]

/-- Criteria are alike where the slots are read in the same way and the conditions are alike. -/
theorem criteria_sameUpToWarnings
    (reads_eq : other.readsRange context.settings = record.readsRange context.settings)
    (range : record.readsRange context.settings = true →
      record.rangeCondition.SameUpToWarnings other.rangeCondition)
    (plain : record.readsRange context.settings = false →
      (record.firstCondition context vendor).SameUpToWarnings
          (other.firstCondition context vendor) ∧
        (record.slots.second.joined record.relation1 1 context vendor).SameUpToWarnings
          (other.slots.second.joined other.relation1 1 context vendor))
    (third : (record.slots.third.joined record.relation2 2 context vendor).SameUpToWarnings
      (other.slots.third.joined other.relation2 2 context vendor)) :
    (record.criteria context vendor).SameUpToWarnings (other.criteria context vendor) := by
  rw [criteria_eq, criteria_eq, reads_eq]
  have warned (record : RuleRecord) :
      (if record.application.isRange && record.rangeHasTable then [.rangeWithTable]
        else []).filter Issue.degrades = [] := by
    split <;> rfl
  refine (Build.note_sameUpToWarnings (warned record) (warned other)).bind fun _ => ?_
  cases reads : record.readsRange context.settings with
  | true =>
      rw [if_pos rfl, if_pos rfl]
      exact (range reads).bind fun _ => third.bind fun _ => .refl _
  | false =>
      rw [if_neg Bool.false_ne_true, if_neg Bool.false_ne_true]
      obtain ⟨firstSame, secondSame⟩ := plain reads
      exact firstSame.bind fun _ => secondSame.bind fun _ => third.bind fun _ => .refl _

/--
A record requires the same under another name, with other slots and with other places, provided that
its criteria, where it has some, are alike, and that the same stops count.
-/
theorem requirement_sameUpToWarnings
    {name : String}
    {itemNo : UInt32}
    {slots : Slots}
    {relation1 relation2 : Option Relation}
    {geo : GeoReferences}
    (other_eq :
      other = { record with vendor := name, itemNo, slots, relation1, relation2, geo })
    (hidden_eq : other.geo.hidden = record.geo.hidden)
    (criteria : record.application ≠ .blank →
      (record.criteria context vendor).SameUpToWarnings (other.criteria context vendor)) :
    (record.requirement context vendor).SameUpToWarnings (other.requirement context vendor) := by
  have rest_eq : other.application = record.application ∧ other.days = record.days ∧
      other.filters = record.filters ∧ other.shape = record.shape := by
    subst other_eq
    exact ⟨rfl, rfl, rfl, rfl⟩
  obtain ⟨application_eq, days_eq, filters_eq, shape_eq⟩ := rest_eq
  rw [requirement_eq, requirement_eq, application_eq, days_eq, filters_eq, shape_eq, hidden_eq]
  refine Build.SameUpToWarnings.bind ?_ fun _ => .refl _
  by_cases blank : record.application = .blank
  · rw [if_pos blank, if_pos blank]
    exact .refl _
  · rw [if_neg blank, if_neg blank]
    exact (criteria blank).bind fun _ => .refl _

end RuleRecord

/-! ## Rules -/

namespace CompiledRule

/-- Two rules ask for the same, in the same places and directions, and are degraded alike. -/
structure SameUpToWarnings (rule other : CompiledRule) : Prop where
  use_eq : rule.use = other.use
  application_eq : rule.application = other.application
  direction_eq : rule.direction = other.direction
  demand_eq : rule.demand = other.demand
  reach_eq : rule.reach = other.reach
  degrading_eq : rule.issues.filter Issue.degrades = other.issues.filter Issue.degrades

namespace SameUpToWarnings

variable {rule other third : CompiledRule}

theorem refl (rule : CompiledRule) : rule.SameUpToWarnings rule := ⟨rfl, rfl, rfl, rfl, rfl, rfl⟩

theorem symm (same : rule.SameUpToWarnings other) : other.SameUpToWarnings rule where
  use_eq := same.use_eq.symm
  application_eq := same.application_eq.symm
  direction_eq := same.direction_eq.symm
  demand_eq := same.demand_eq.symm
  reach_eq := same.reach_eq.symm
  degrading_eq := same.degrading_eq.symm

theorem trans
    (same : rule.SameUpToWarnings other)
    (otherSame : other.SameUpToWarnings third) :
    rule.SameUpToWarnings third where
  use_eq := same.use_eq.trans otherSame.use_eq
  application_eq := same.application_eq.trans otherSame.application_eq
  direction_eq := same.direction_eq.trans otherSame.direction_eq
  demand_eq := same.demand_eq.trans otherSame.demand_eq
  reach_eq := same.reach_eq.trans otherSame.reach_eq
  degrading_eq := same.degrading_eq.trans otherSame.degrading_eq

/-- Warnings and names play no part in evaluation. -/
theorem sameOutcomes
    (same : rule.SameUpToWarnings other)
    (context : Context) :
    rule.SameOutcomes context other context := by
  apply sameOutcomes_of_isMet same.use_eq
  · rw [indicator, indicator, same.direction_eq]
  · rw [same.application_eq]
  · exact same.reach_eq
  · rw [← same.demand_eq]
    exact .self fun _ _ _ _ _ => rfl

end SameUpToWarnings
end CompiledRule

namespace RuleRecord

variable {record other : RuleRecord}

/--
A record is compiled alike under another name, with other slots and with other places, provided that
its criteria, where it has some, are alike, and that it reaches as far.
-/
theorem compile_sameUpToWarnings
    {name : String}
    {itemNo : UInt32}
    {slots : Slots}
    {relation1 relation2 : Option Relation}
    {geo : GeoReferences}
    (use : RuleUse)
    (other_eq :
      other = { record with vendor := name, itemNo, slots, relation1, relation2, geo })
    (hidden_eq : other.geo.hidden = record.geo.hidden)
    (reach_eq : record.reach context vendor = other.reach context vendor)
    (criteria : record.application ≠ .blank →
      (record.criteria context vendor).SameUpToWarnings (other.criteria context vendor)) :
    (record.compile use vendor context).SameUpToWarnings (other.compile use vendor context) := by
  have rest_eq : other.availability = record.availability ∧
      record.application = other.application ∧ record.direction = other.direction := by
    subst other_eq
    exact ⟨rfl, rfl, rfl⟩
  obtain ⟨availability_eq, application_eq, direction_eq⟩ := rest_eq
  have requirementSame := requirement_sameUpToWarnings other_eq hidden_eq criteria
  have demandSame : (record.demand context vendor).1 = (other.demand context vendor).1 ∧
      (record.demand context vendor).2.filter Issue.degrades =
        (other.demand context vendor).2.filter Issue.degrades := by
    unfold demand
    rw [availability_eq]
    cases record.availability with
    | dataUnavailable => exact ⟨rfl, rfl⟩
    | textOnly => exact ⟨rfl, rfl⟩
    | available =>
        simp only [← requirementSame.result_eq]
        cases (record.requirement context vendor).result with
        | error defect => exact ⟨rfl, requirementSame.degrading_eq⟩
        | ok requirement => exact ⟨rfl, requirementSame.degrading_eq⟩
  exact {
    use_eq := rfl
    application_eq
    direction_eq
    demand_eq := demandSame.1
    reach_eq := congrArg Prod.fst reach_eq
    degrading_eq := by simp only [compile, List.filter_append, demandSame.2, reach_eq] }

/-! ## Unread fields -/

/-- A change of a record in fields that mean nothing beside its other fields. -/
inductive UnreadChange (settings : Settings) (record : RuleRecord) : RuleRecord → Prop where
  /-- The name of a record is no part of the rule. -/
  | name (vendor : String) (itemNo : UInt32) :
      UnreadChange settings record { record with vendor, itemNo }
  /-- Nothing is asked of flights. -/
  | conditions
      (slots : Slots)
      (relation1 relation2 : Option Relation)
      (blank : record.application = .blank) :
      UnreadChange settings record { record with slots, relation1, relation2 }
  /-- No relation joins the third slot. -/
  | third (third : Slot) (notJoined : record.relation2 = none) :
      UnreadChange settings record { record with slots.third := third }
  /-- No relation joins the second slot, which is not the end of a range either. -/
  | second
      (second : Slot)
      (plain : record.application = .must ∨ record.application = .mustNot)
      (notJoined : record.relation1 = none) :
      UnreadChange settings record { record with slots.second := second }
  /-- The ends of a range are joined by no relation, and the carrier is that of the first one. -/
  | rangeEnds
      (relation1 : Option Relation)
      (carrier : String)
      (range : record.application.isRange = true)
      (noTables : record.slots.first.tableItem = 0 ∧ record.slots.second.tableItem = 0) :
      UnreadChange settings record { record with relation1, slots.second.carrier := carrier }
  /-- The settings have the ends of a range count, and not their flight tables. -/
  | rangeTables
      (relation1 : Option Relation)
      (carrier : String)
      (firstTable secondTable : UInt32)
      (range : record.application.isRange = true)
      (tablesDoNotCount : settings.rangeWithTableAsPlain = false) :
      UnreadChange settings record {
        record with
        relation1
        slots.first.tableItem := firstTable
        slots.second.carrier := carrier
        slots.second.tableItem := secondTable }
  /-- The rule is not restricted to places. -/
  | places (betweenItem andItem : UInt32) (blank : record.geo.use = .blank) :
      UnreadChange settings record {
        record with geo.betweenItem := betweenItem, geo.andItem := andItem }

/-- The criteria of a record are made of its application, slots and relations alone. -/
theorem criteria_sameUpToWarnings_of_same_slots
    (application_eq : other.application = record.application)
    (slots_eq : other.slots = record.slots)
    (relation1_eq : other.relation1 = record.relation1)
    (relation2_eq : other.relation2 = record.relation2) :
    (record.criteria context vendor).SameUpToWarnings (other.criteria context vendor) := by
  apply criteria_sameUpToWarnings
  · rw [readsRange, readsRange, rangeHasTable, rangeHasTable, application_eq, slots_eq]
  · exact fun _ => rangeCondition_sameUpToWarnings (by rw [slots_eq]) (by rw [slots_eq])
      (by rw [slots_eq])
  · rw [slots_eq, relation1_eq]
    exact fun _ => ⟨firstCondition_sameUpToWarnings (by rw [slots_eq]), .refl _⟩
  · rw [slots_eq, relation2_eq]
    exact .refl _

/-- One change of unread fields leaves the rule as it is, but for its name and for warnings. -/
theorem UnreadChange.sameUpToWarnings
    (use : RuleUse)
    (changed : record.UnreadChange context.settings other) :
    (record.compile use vendor context).SameUpToWarnings (other.compile use vendor context) := by
  cases changed with
  | name =>
      refine compile_sameUpToWarnings use rfl rfl rfl fun _ => ?_
      exact criteria_sameUpToWarnings_of_same_slots rfl rfl rfl rfl
  | conditions slots relation1 relation2 blank =>
      exact compile_sameUpToWarnings use rfl rfl rfl fun notBlank => absurd blank notBlank
  | third third notJoined =>
      refine compile_sameUpToWarnings use rfl rfl rfl fun _ => ?_
      refine criteria_sameUpToWarnings rfl ?_ ?_ ?_
      · exact fun _ => rangeCondition_sameUpToWarnings rfl rfl rfl
      · exact fun _ => ⟨firstCondition_sameUpToWarnings rfl, .refl _⟩
      · rw [notJoined]
        exact Slot.joined_none_sameUpToWarnings _ _ 2
  | second second plain notJoined =>
      have noRange : record.application.isRange = false := by
        rcases plain with application | application <;> rw [application] <;> rfl
      refine compile_sameUpToWarnings use rfl rfl rfl fun _ => ?_
      refine criteria_sameUpToWarnings ?_ ?_ ?_ (.refl _)
      · simp only [readsRange, noRange, Bool.false_and]
      · intro reads
        simp [readsRange, noRange] at reads
      · intro _
        refine ⟨firstCondition_sameUpToWarnings rfl, ?_⟩
        rw [notJoined]
        exact Slot.joined_none_sameUpToWarnings _ _ 1
  | rangeEnds relation1 carrier range noTables =>
      have reads : record.readsRange context.settings = true :=
        readsRange_eq_true_iff.2 ⟨range, .inl noTables⟩
      refine compile_sameUpToWarnings use rfl rfl rfl fun _ => ?_
      refine criteria_sameUpToWarnings rfl ?_ ?_ (.refl _)
      · exact fun _ => rangeCondition_sameUpToWarnings rfl rfl rfl
      · intro plain
        simp [reads] at plain
  | rangeTables relation1 carrier firstTable secondTable range tablesDoNotCount =>
      have reads (record : RuleRecord) (range : record.application.isRange = true) :
          record.readsRange context.settings = true :=
        readsRange_eq_true_iff.2 ⟨range, .inr tablesDoNotCount⟩
      refine compile_sameUpToWarnings use rfl rfl rfl fun _ => ?_
      refine criteria_sameUpToWarnings ?_ ?_ ?_ (.refl _)
      · refine (reads _ ?_).trans (reads record range).symm
        exact range
      · exact fun _ => rangeCondition_sameUpToWarnings rfl rfl rfl
      · intro plain
        simp [reads record range] at plain
  | places betweenItem andItem blank =>
      refine compile_sameUpToWarnings use rfl rfl ?_ fun _ => ?_
      · simp only [reach, GeoScope.resolve, blank]
      · exact criteria_sameUpToWarnings_of_same_slots rfl rfl rfl rfl

/-- Any number of such changes, in either direction, leaves the rule as it is. -/
theorem compile_of_eqvGen_unreadChange
    (use : RuleUse)
    (changed : Relation.EqvGen (UnreadChange context.settings) record other) :
    (record.compile use vendor context).SameUpToWarnings (other.compile use vendor context) := by
  induction changed with
  | rel record other changed => exact changed.sameUpToWarnings use
  | refl record => exact .refl _
  | symm record other _ inductionHypothesis => exact inductionHypothesis.symm
  | trans record other third _ _ firstHypothesis secondHypothesis =>
      exact firstHypothesis.trans secondHypothesis

/-- A warning does not say of anything that it is missing. -/
theorem references_of_warning
    {issue : Issue}
    (record : RuleRecord)
    (warning : issue.degrades = false) :
    record.References issue := by
  cases issue with
  | unresolvedTable => cases warning
  | unresolvedGeoItem => cases warning
  | _ => trivial

end RuleRecord

/--
Records that differ in unread fields only ask for the same in the same places, and have the same
outcomes in every transaction.  The same issues degrade their rules, so that whatever an issue of
one rule says is missing is referenced by the other record too: what only unread fields reference
degrades no rule, even if it does not exist.
-/
theorem compile_of_unread_changes
    {record other : RuleRecord}
    (use : RuleUse)
    (vendor : String)
    (compileContext : Context)
    (unread : Relation.EqvGen (RuleRecord.UnreadChange compileContext.settings) record other) :
    let rule := record.compile use vendor compileContext
    let otherRule := other.compile use vendor compileContext
    rule.demand = otherRule.demand ∧
    rule.reach = otherRule.reach ∧
    (∀ context, rule.SameOutcomes context otherRule context) ∧
    rule.issues.filter Issue.degrades = otherRule.issues.filter Issue.degrades ∧
    ∀ issue ∈ rule.issues, other.References issue := by
  intro rule otherRule
  have same : rule.SameUpToWarnings otherRule :=
    RuleRecord.compile_of_eqvGen_unreadChange use unread
  refine ⟨same.demand_eq, same.reach_eq, same.sameOutcomes, same.degrading_eq, ?_⟩
  intro issue member
  cases degrading : issue.degrades with
  | false => exact other.references_of_warning degrading
  | true =>
      have shared : issue ∈ otherRule.issues.filter Issue.degrades := by
        rw [← same.degrading_eq]
        exact List.mem_filter.2 ⟨member, degrading⟩
      exact other.references_of_mem_issues use issue (List.mem_filter.1 shared).1

/-- A record with a flight table and a geographic item in fields that are not read. -/
def cluttered : RuleRecord where
  vendor := "ATP"
  itemNo := 1
  application := .must
  slots := { first := .literal "DL" (-1), third := .table 7 }
  geo := { betweenItem := 9 }

/-- The same record without them. -/
def uncluttered : RuleRecord := { cluttered with slots.third := {}, geo.betweenItem := 0 }

/-- Neither has to exist for the rule to pass where it passes without them. -/
theorem compile_of_cluttered :
    let rule := cluttered.compile .primary "ATP" {}
    let itinerary : Itinerary := ⟨[.air "DL" 1 default default], .outbound⟩
    Relation.EqvGen (RuleRecord.UnreadChange {}) cluttered uncluttered ∧
    rule.outcome {} itinerary = .pass ∧
    .unresolvedTable "ATP" 7 ∉ rule.issues ∧ .unresolvedGeoItem "ATP" 9 ∉ rule.issues := by
  intro rule itinerary
  have unread : Relation.EqvGen (RuleRecord.UnreadChange {}) cluttered uncluttered :=
    .trans _ _ _ (.rel _ _ (.third {} rfl)) (.rel _ _ (.places 0 0 rfl))
  obtain ⟨_, _, sameOutcomes, _, referenced⟩ := compile_of_unread_changes .primary "ATP" {} unread
  refine ⟨unread, ?_, ?_, ?_⟩
  · exact ((sameOutcomes {}).outcome_eq itinerary).trans (by decide)
  · exact fun member => (by decide : (7 : UInt32) ∉ [0, 0, 0]) (referenced _ member)
  · exact fun member => (by decide : (9 : UInt32) ∉ [0, 0, 0]) (referenced _ member)

end FlightRule
