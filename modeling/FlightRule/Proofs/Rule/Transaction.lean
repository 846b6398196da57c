import FlightRule.Proofs.Criteria.Agreement
import FlightRule.Proofs.Rule.Agreement
import FlightRule.Proofs.Rule.Defects

/-!
# What evaluation reads of its transaction

A compiled rule carries the flight tables and the places that it asks for.  Of the transaction it
reads whether the ticket goes round the world, and if so the alliances of carriers, for the rows of
its flight tables; it reads no settings and no other reference data
(`outcome_of_agreeing_transactions`).
-/

namespace FlightRule

/-! ## Conditions -/

namespace Condition

/-- The condition is that a flight is in a table. -/
def isTable : Condition → Bool
  | table _ => true
  | flight _ | anyFlown => false

/-- Carrier codes of the condition may be codes of alliances. -/
def admitsAlliances : Condition → Bool
  | flight condition => condition.allianceAware
  | table _ => true
  | anyFlown => false

end Condition

/--
Two transactions read the same wherever alliances are admitted or are not: both go round the world
or neither, and if they do and alliances are admitted, every carrier has the same ones.
-/
structure Context.AgreesWith (context other : Context) (admitsAlliances : Bool) : Prop where
  roundTheWorld_eq : context.roundTheWorld = other.roundTheWorld
  alliances_eq : context.roundTheWorld = true → admitsAlliances = true →
    ∀ carrier, context.alliances carrier = other.alliances carrier

variable {context other : Context} {vendor : String}

theorem CarrierPattern.accepts_congr
    {allianceAware : Bool}
    (pattern : CarrierPattern)
    (agree : context.AgreesWith other allianceAware)
    (code : String) :
    pattern.accepts allianceAware context code = pattern.accepts allianceAware other code := by
  cases pattern with
  | any => rfl
  | exact expected =>
      rw [accepts, accepts, ← agree.roundTheWorld_eq]
      cases admitted : allianceAware && context.roundTheWorld with
      | false => rfl
      | true =>
          rw [Bool.and_eq_true] at admitted
          rw [agree.alliances_eq admitted.2 admitted.1]

theorem FlightCondition.accepts_congr
    (condition : FlightCondition)
    (agree : context.AgreesWith other condition.allianceAware)
    (segment : Segment) :
    condition.accepts context segment = condition.accepts other segment := by
  rw [accepts, accepts, condition.carrier.accepts_congr agree,
    condition.operating.accepts_congr agree]

/-- A condition reads alliances only on a ticket round the world, and only if it admits them. -/
theorem Condition.accepts_congr
    (condition : Condition)
    (agree : context.AgreesWith other condition.admitsAlliances)
    (segment : Segment) :
    condition.accepts context segment = condition.accepts other segment := by
  cases condition with
  | flight condition => exact condition.accepts_congr agree segment
  | table condition =>
      have rowSame (row : FlightCondition) :
          row.accepts context segment = row.accepts other segment :=
        row.accepts_congr
          ⟨agree.roundTheWorld_eq, fun roundTheWorld _ => agree.alliances_eq roundTheWorld rfl⟩
          segment
      simp only [accepts, TableCondition.accepts, rowSame]
  | anyFlown => rfl

/-! ## Conditions of records -/

namespace Build

variable {α β : Type}

/-- Everything that the step can build has a property. -/
def Ensures (property : α → Prop) (build : Build α) : Prop :=
  ∀ value, build.result = .ok value → property value

theorem ensures_done {property : α → Prop} {value : α} (holds : property value) :
    (done value).Ensures property := by
  intro built built_eq
  obtain rfl : value = built := Except.ok.inj built_eq
  exact holds

theorem ensures_stop (property : α → Prop) (defect : Defect) :
    (stop defect : Build α).Ensures property := by
  intro built built_eq
  cases built_eq

theorem Ensures.bind
    {first : Build α}
    {next : α → Build β}
    {property : α → Prop}
    {nextProperty : β → Prop}
    (ensured : first.Ensures property)
    (nextEnsured : ∀ value, property value → (next value).Ensures nextProperty) :
    (first >>= next).Ensures nextProperty := by
  intro built built_eq
  obtain ⟨value, value_eq, next_eq⟩ := result_bind_eq_ok_iff.1 built_eq
  exact nextEnsured value (ensured value value_eq) built next_eq

/-- What the last step builds has the property, whatever the steps before it build. -/
theorem ensures_bind
    {first : Build α}
    {next : α → Build β}
    {property : β → Prop}
    (nextEnsured : ∀ value, (next value).Ensures property) :
    (first >>= next).Ensures property :=
  have anything : first.Ensures fun _ => True := fun _ _ => trivial
  anything.bind fun value _ => nextEnsured value

end Build

/-- Of the conditions that records compile to, flight tables admit alliances and no others do. -/
def Condition.IsFiled (condition : Condition) : Prop :=
  condition.admitsAlliances = condition.isTable

/-- Only a flight table admits alliances. -/
theorem Slot.ensures_condition (slot : Slot) :
    (slot.condition context vendor).Ensures Condition.IsFiled := by
  unfold condition
  split
  · exact Build.ensures_done rfl
  · split
    · exact Build.ensures_done rfl
    · exact Build.ensures_stop _ _

theorem Slot.ensures_joined (slot : Slot) (relation : Option Relation) (position : Nat) :
    (slot.joined relation position context vendor).Ensures fun joined =>
      ∀ pair ∈ joined, pair.2.IsFiled := by
  unfold joined
  split
  · refine slot.ensures_condition.bind fun condition filed => Build.ensures_done ?_
    rintro _ ⟨⟩
    exact filed
  · exact Build.ensures_stop _ _
  · exact Build.ensures_bind fun _ => Build.ensures_done (by simp)
  · exact Build.ensures_done (by simp)

/-- The conditions of a chain are its first one and those that are joined to it. -/
theorem Criteria.conditions_chain
    (first : Condition)
    (second third : Option (Relation × Condition)) :
    (chain first second third).conditions =
      first :: ((second.map Prod.snd).toList ++ (third.map Prod.snd).toList) := by
  rcases second with _ | ⟨relation1, second⟩ <;> rcases third with _ | ⟨relation2, third⟩
  · rfl
  · cases relation2 <;> rfl
  · cases relation1 <;> rfl
  · cases relation1 <;> cases relation2 <;> rfl

theorem Criteria.isFiled_chain
    {first : Condition}
    {second third : Option (Relation × Condition)}
    (firstFiled : first.IsFiled)
    (secondFiled : ∀ pair ∈ second, pair.2.IsFiled)
    (thirdFiled : ∀ pair ∈ third, pair.2.IsFiled) :
    ∀ condition ∈ (chain first second third).conditions, condition.IsFiled := by
  intro condition member
  rw [conditions_chain] at member
  simp only [List.mem_cons, List.mem_append, Option.mem_toList,
    Option.map_eq_some_iff] at member
  rcases member with rfl | ⟨pair, joined, rfl⟩ | ⟨pair, joined, rfl⟩
  · exact firstFiled
  · exact secondFiled pair joined
  · exact thirdFiled pair joined

namespace RuleRecord

variable (record : RuleRecord)

theorem ensures_firstCondition :
    (record.firstCondition context vendor).Ensures Condition.IsFiled := by
  unfold firstCondition
  split
  · exact record.slots.first.ensures_condition
  · split
    · exact Build.ensures_bind fun _ => Build.ensures_done rfl
    · exact Build.ensures_done rfl

theorem ensures_rangeCondition : record.rangeCondition.Ensures Condition.IsFiled := by
  intro condition built
  rw [result_rangeCondition] at built
  cases built
  rfl

theorem ensures_criteria :
    (record.criteria context vendor).Ensures fun criteria =>
      ∀ condition ∈ criteria.conditions, condition.IsFiled := by
  rw [criteria_eq]
  refine Build.ensures_bind fun _ => ?_
  split
  · refine record.ensures_rangeCondition.bind fun first firstFiled => ?_
    refine (record.slots.third.ensures_joined _ _).bind fun third thirdFiled => ?_
    exact Build.ensures_done (Criteria.isFiled_chain firstFiled (by simp) thirdFiled)
  · refine record.ensures_firstCondition.bind fun first firstFiled => ?_
    refine (record.slots.second.ensures_joined _ _).bind fun second secondFiled => ?_
    refine (record.slots.third.ensures_joined _ _).bind fun third thirdFiled => ?_
    exact Build.ensures_done (Criteria.isFiled_chain firstFiled secondFiled thirdFiled)

/-- All conditions of a requirement are filed ones. -/
theorem ensures_requirement :
    (record.requirement context vendor).Ensures fun requirement =>
      ∀ criteria ∈ requirement.criteria, ∀ condition ∈ criteria.conditions,
        condition.IsFiled := by
  rw [requirement_eq]
  have criteriaFiled :
      (if record.application = .blank then pure none
        else some <$> record.criteria context vendor : Build (Option Criteria)).Ensures
        fun criteria => ∀ asked ∈ criteria, ∀ condition ∈ asked.conditions, condition.IsFiled := by
    split
    · exact Build.ensures_done (by simp)
    · refine record.ensures_criteria.bind fun criteria filed => Build.ensures_done ?_
      rintro _ ⟨⟩
      exact filed
  exact criteriaFiled.bind fun criteria filed => Build.ensures_bind fun _ =>
    Build.ensures_done filed

/-- The conditions of a rule that a record compiles to admit alliances in flight tables only. -/
theorem isFiled_of_demand
    {requirement : Requirement}
    {criteria : Criteria}
    {condition : Condition}
    (demand_eq : (record.demand context vendor).1 = .requires requirement)
    (asked : criteria ∈ requirement.criteria)
    (member : condition ∈ criteria.conditions) :
    condition.IsFiled :=
  record.ensures_requirement requirement (record.result_requirement_of_demand demand_eq)
    criteria asked condition member

end RuleRecord

/-! ## Transactions that agree -/

/-- No condition of the rule is that a flight is in a table. -/
def CompiledRule.NamesNoTable (rule : CompiledRule) : Prop :=
  ∀ requirement ∈ rule.requirement?, ∀ criteria ∈ requirement.criteria,
    ∀ condition ∈ criteria.conditions, condition.isTable = false

instance (rule : CompiledRule) : Decidable rule.NamesNoTable :=
  inferInstanceAs (Decidable (∀ requirement ∈ rule.requirement?, _))

/-- A requirement is met in two transactions alike where its conditions read the same in them. -/
theorem Requirement.isMet_of_agreesWith
    {requirement : Requirement}
    (agree : ∀ criteria ∈ requirement.criteria, ∀ condition ∈ criteria.conditions,
      context.AgreesWith other condition.admitsAlliances)
    (segments opposite : List Segment) :
    requirement.isMet context segments opposite = requirement.isMet other segments opposite := by
  apply isMet_congr rfl _ rfl
  refine List.forall₂_same.2 fun segment _ => ⟨rfl, rfl, fun criteria asked condition member => ?_⟩
  exact condition.accepts_congr (agree criteria asked condition member) segment

/-- A rule has the same outcomes in transactions in which its conditions read the same. -/
theorem CompiledRule.sameOutcomes_of_agreesWith
    {rule : CompiledRule}
    (sameTrip : context.roundTheWorld = other.roundTheWorld)
    (agree : ∀ requirement ∈ rule.requirement?, ∀ criteria ∈ requirement.criteria,
      ∀ condition ∈ criteria.conditions, context.AgreesWith other condition.admitsAlliances) :
    rule.SameOutcomes context rule other := by
  have indicator_eq : rule.indicator context = rule.indicator other := by
    rw [indicator, indicator, DirectionIndicator.effective, DirectionIndicator.effective, sameTrip]
  refine sameOutcomes_of_isMet rfl indicator_eq rfl rfl (.self fun requirement required => ?_)
  intro inside opposite _
  exact Requirement.isMet_of_agreesWith (agree requirement (mem_requirement?_iff.2 required)) _ _

/--
A rule that is compiled from a record carries what it needs.  In two transactions that both go round
the world or both do not, it has the same outcomes if they do not, or if the rule names no flight
table, through which alone alliances are admitted, or if every carrier has the same alliances in
both.  Settings, flight tables and geographic data of the transaction have no effect on an outcome.
-/
theorem outcome_of_agreeing_transactions
    (record : RuleRecord)
    (use : RuleUse)
    (vendor : String)
    (compileContext context other : Context)
    (sameTrip : context.roundTheWorld = other.roundTheWorld) :
    let rule := record.compile use vendor compileContext
    (context.roundTheWorld = false ∨ rule.NamesNoTable ∨
        (∀ carrier, context.alliances carrier = other.alliances carrier) →
      rule.SameOutcomes context rule other) ∧
    ∀ settings tables geography,
      rule.SameOutcomes { context with settings, tables, geography } rule context := by
  intro rule
  constructor
  · intro agree
    apply CompiledRule.sameOutcomes_of_agreesWith sameTrip
    intro requirement required criteria asked condition member
    refine ⟨sameTrip, fun roundTheWorld admits => ?_⟩
    rcases agree with notRound | noTable | sameAlliances
    · rw [roundTheWorld] at notRound
      cases notRound
    · have filed := record.isFiled_of_demand (CompiledRule.mem_requirement?_iff.1 required)
        asked member
      rw [Condition.IsFiled, admits, noTable requirement required criteria asked condition member]
        at filed
      cases filed
    · exact sameAlliances
  · intro settings tables geography
    exact CompiledRule.sameOutcomes_of_agreesWith rfl fun _ _ _ _ _ _ => ⟨rfl, fun _ _ _ => rfl⟩

/-- Flights that a slot describes have to be used. -/
def slotAsked (slot : Slot) : RuleRecord where
  vendor := "ATP"
  itemNo := 1
  application := .must
  slots := { first := slot }

/-- A ticket round the world whose carriers belong to some alliances. -/
def aroundWith (alliances : List String) : Context where
  roundTheWorld := true
  tables := fun vendor itemNo => some ⟨vendor, itemNo, [⟨"SKYTEAM", "", -1, 0⟩]⟩
  alliances := fun _ => .ofList alliances

/-- A slot with a carrier does not stand for an alliance, whatever alliances there are. -/
theorem outcome_of_unlike_alliances :
    let rule := (slotAsked (.literal "SKYTEAM" (-1))).compile .primary "ATP" {}
    let itinerary : Itinerary := ⟨[.air "DL" 1 default default], .unknown⟩
    rule.NamesNoTable ∧
      rule.outcome (aroundWith ["SKYTEAM"]) itinerary = .fail ∧
      rule.outcome (aroundWith []) itinerary = .fail := by
  intro rule itinerary
  have noTable : rule.NamesNoTable := by decide
  have fails : rule.outcome (aroundWith []) itinerary = .fail := by decide
  have same := (outcome_of_agreeing_transactions (slotAsked (.literal "SKYTEAM" (-1))) .primary
    "ATP" {} (aroundWith ["SKYTEAM"]) (aroundWith []) rfl).1 (.inr (.inl noTable))
  exact ⟨noTable, (same.outcome_eq itinerary).trans fails, fails⟩

/-- The rows of a flight table stand for alliances. -/
example :
    let rule := (slotAsked (.table 1)).compile .primary "ATP" (aroundWith [])
    let itinerary : Itinerary := ⟨[.air "DL" 1 default default], .unknown⟩
    rule.outcome (aroundWith ["SKYTEAM"]) itinerary = .pass ∧
      rule.outcome (aroundWith []) itinerary = .fail := by
  decide

end FlightRule
