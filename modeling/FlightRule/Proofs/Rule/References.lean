import FlightRule.Proofs.Rule.Defects

/-!
# What a record references

An issue of a rule that says that something is missing names a flight table or a geographic item by
its number.  The number stands in the record (`RuleRecord.references_of_mem_issues`): each step of
compilation reports what it looks up, and it looks up numbers from the fields that it is about.
-/

namespace FlightRule

variable {context : Context} {vendor : String}

/-! ## Flight tables -/

namespace Build

variable {α β : Type} {possible : Issue → Prop}

/-- All issues of a step are possible ones. -/
def ReportsOnly (possible : Issue → Prop) (step : Build α) : Prop :=
  ∀ issue ∈ step.issues, possible issue

theorem reportsOnly_done (value : α) : (done value).ReportsOnly possible := by
  intro issue member
  cases member

theorem reportsOnly_note
    {issues : List Issue}
    (allPossible : ∀ issue ∈ issues, possible issue) :
    (note issues).ReportsOnly possible :=
  allPossible

theorem reportsOnly_stop
    {defect : Defect}
    (isPossible : possible defect.issue) :
    (stop defect : Build α).ReportsOnly possible := by
  intro issue member
  obtain rfl := List.mem_singleton.1 member
  exact isPossible

theorem ReportsOnly.bind
    {step : Build α}
    {next : α → Build β}
    (reports : step.ReportsOnly possible)
    (nextReports : ∀ value, (next value).ReportsOnly possible) :
    (step >>= next).ReportsOnly possible := by
  intro issue member
  rw [issues_bind] at member
  cases built : step.result with
  | error defect =>
      rw [built] at member
      exact reports issue member
  | ok value =>
      rw [built] at member
      rcases List.mem_append.1 member with here | later
      · exact reports issue here
      · exact nextReports value issue later

end Build

namespace RuleRecord

/-- What an issue says is missing is referenced by the record. -/
def References (record : RuleRecord) : Issue → Prop
  | .unresolvedTable _ item =>
      item ∈ [record.slots.first.tableItem, record.slots.second.tableItem,
        record.slots.third.tableItem]
  | .unresolvedGeoItem _ item =>
      item ∈ [record.geo.betweenItem, record.geo.andItem, record.geo.viaItem]
  | _ => True

variable {record : RuleRecord}

theorem reportsOnly_condition
    {slot : Slot}
    (referenced : record.References (.unresolvedTable vendor slot.tableItem)) :
    (slot.condition context vendor).ReportsOnly record.References := by
  unfold Slot.condition
  split
  · exact Build.reportsOnly_done _
  · split
    · exact Build.reportsOnly_done _
    · exact Build.reportsOnly_stop referenced

theorem reportsOnly_joined
    {slot : Slot}
    (referenced : record.References (.unresolvedTable vendor slot.tableItem))
    (relation : Option Relation)
    (position : Nat) :
    (slot.joined relation position context vendor).ReportsOnly record.References := by
  unfold Slot.joined
  cases relation with
  | none =>
      cases slot.isCoded with
      | false => exact Build.reportsOnly_done _
      | true =>
          refine (Build.reportsOnly_note ?_).bind fun _ => Build.reportsOnly_done _
          simp [References]
  | some relation =>
      cases slot.isCoded with
      | false => exact Build.reportsOnly_stop trivial
      | true => exact (reportsOnly_condition referenced).bind fun _ => Build.reportsOnly_done _

theorem reportsOnly_firstCondition :
    (record.firstCondition context vendor).ReportsOnly record.References := by
  unfold firstCondition
  cases record.slots.first.isCoded with
  | true => exact reportsOnly_condition (by simp [References])
  | false =>
      cases record.slots.second.isCoded || record.slots.third.isCoded with
      | true =>
          refine (Build.reportsOnly_note ?_).bind fun _ => Build.reportsOnly_done _
          simp [References]
      | false => exact Build.reportsOnly_done _

theorem reportsOnly_rangeCondition : record.rangeCondition.ReportsOnly record.References := by
  unfold rangeCondition
  dsimp only
  split
  · refine (Build.reportsOnly_note ?_).bind fun _ => Build.reportsOnly_done _
    simp [References]
  · exact Build.reportsOnly_done _

/-- The criteria of a record report no table but those of its slots. -/
theorem reportsOnly_criteria :
    (record.criteria context vendor).ReportsOnly record.References := by
  have third (chain : Option (Relation × Condition) → Criteria) :
      (do
        let third ← record.slots.third.joined record.relation2 2 context vendor
        return chain third : Build Criteria).ReportsOnly record.References :=
    (reportsOnly_joined (by simp [References]) _ _).bind fun _ => Build.reportsOnly_done _
  rw [criteria_eq]
  refine (Build.reportsOnly_note ?_).bind fun _ => ?_
  · split <;> simp [References]
  · split
    · exact reportsOnly_rangeCondition.bind fun _ => third _
    · exact reportsOnly_firstCondition.bind fun _ =>
        (reportsOnly_joined (by simp [References]) _ _).bind fun _ => third _

/-- The issues of a demand name flight tables that the record references. -/
theorem references_of_mem_demand (record : RuleRecord) :
    ∀ issue ∈ (record.demand context vendor).2, record.References issue := by
  have requirement : (record.requirement context vendor).ReportsOnly record.References := by
    rw [requirement_eq]
    refine Build.ReportsOnly.bind ?_ fun _ => ?_
    · split
      · exact Build.reportsOnly_done _
      · exact reportsOnly_criteria.bind fun _ => Build.reportsOnly_done _
    · refine (Build.reportsOnly_note ?_).bind fun _ => Build.reportsOnly_done _
      simp [References]
  intro issue member
  unfold demand at member
  split at member
  · cases member
  · cases member
  · dsimp only at member
    split at member
    · exact requirement issue member
    · exact requirement issue member

end RuleRecord

/-! ## Geographic items -/

/-- An item lacks what the record references it for, or else a trip structure. -/
theorem RuleRecord.references_of_lacks
    {record : RuleRecord}
    {item : UInt32}
    {issue : Issue}
    (referenced : record.References (.unresolvedGeoItem vendor item))
    (lacks : context.geography.Lacks vendor item issue) :
    record.References issue := by
  cases lacks with
  | item missing => exact referenced
  | tripStructure present bounded missing => trivial

/-- The issue of a reach names a geographic item that the record references. -/
theorem RuleRecord.references_of_mem_reach (record : RuleRecord) :
    ∀ issue ∈ (record.reach context vendor).2, record.References issue := by
  intro issue member
  unfold reach at member
  cases resolved : GeoScope.resolve context vendor record.geo with
  | ok scope => simp [resolved] at member
  | error found =>
      obtain rfl : issue = found := by simpa [resolved] using member
      obtain ⟨item, consulted, lacks⟩ := GeoScope.exists_lacks_of_resolve resolved
      exact references_of_lacks (record.geo.consulted_subset consulted) lacks

/-- A rule has issues with what its record references, and with nothing else that is missing. -/
theorem RuleRecord.references_of_mem_issues
    (record : RuleRecord)
    (use : RuleUse) :
    ∀ issue ∈ (record.compile use vendor context).issues, record.References issue := by
  intro issue member
  rcases List.mem_append.1 member with ofDemand | ofReach
  · exact record.references_of_mem_demand issue ofDemand
  · exact record.references_of_mem_reach issue ofReach

end FlightRule
