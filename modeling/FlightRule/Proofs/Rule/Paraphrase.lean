import FlightRule.Proofs.Criteria.Equivalence
import FlightRule.Proofs.Rule.Agreement
import FlightRule.Proofs.Rule.Defects
import FlightRule.Proofs.Rule.Plain

/-!
# Records that say the same

A rule can be filed in more than one way.  To name no application is to ask for any flights, with
nothing coded in the slots (`outcome_of_any_flight`).  To name a range of flight numbers in the
first two slots is to reference a flight table that has this range for its only row, except that on
a ticket round the world the carriers of flight tables may be alliances
(`outcome_of_range_as_table`).
-/

namespace FlightRule

namespace RuleRecord

variable {record other : RuleRecord} {compileContext context : Context} {vendor : String}

/-- Records with the same directions and places, and requirements met alike, have one outcome. -/
theorem sameOutcomes_of_demand
    (use : RuleUse)
    (direction_eq : record.direction = other.direction)
    (geo_eq : record.geo = other.geo)
    (negative_eq : record.application.isNegative = other.application.isNegative)
    (demands : (record.demand compileContext vendor).1.Rel (fun requirement otherRequirement =>
      ∀ inside opposite, inside.countP Segment.isFlown ≠ 0 →
        requirement.isMet context inside opposite =
          otherRequirement.isMet context inside opposite)
      (other.demand compileContext vendor).1) :
    (record.compile use vendor compileContext).SameOutcomes context
      (other.compile use vendor compileContext) context := by
  apply CompiledRule.sameOutcomes_of_isMet
  · rfl
  · simp only [CompiledRule.indicator, compile, direction_eq]
  · exact negative_eq
  · simp only [compile, reach, geo_eq]
  · exact demands

/-- What a record with an application requires is built around its criteria. -/
theorem result_requirement_of_criteria (notBlank : record.application ≠ .blank) :
    (record.requirement context vendor).result =
      (record.criteria context vendor).result.map record.requirementOf := by
  rw [result_requirement, if_neg notBlank]
  cases (record.criteria context vendor).result <;> rfl

/-- Records whose criteria are made of one attempt are compiled to the demands made of them. -/
theorem demand_rel_of_criteria
    {α : Type}
    {attempt : Except Defect α}
    {criteriaOf otherCriteriaOf : α → Criteria}
    {related : Requirement → Requirement → Prop}
    (availability_eq : record.availability = other.availability)
    (notBlank : record.application ≠ .blank)
    (otherNotBlank : other.application ≠ .blank)
    (result_eq : (record.criteria context vendor).result = attempt.map criteriaOf)
    (otherResult_eq : (other.criteria context vendor).result = attempt.map otherCriteriaOf)
    (same : ∀ value, related (record.requirementOf (criteriaOf value))
      (other.requirementOf (otherCriteriaOf value))) :
    (record.demand context vendor).1.Rel related (other.demand context vendor).1 := by
  have built : (record.requirement context vendor).result =
      attempt.map fun value => record.requirementOf (criteriaOf value) := by
    rw [result_requirement_of_criteria notBlank, result_eq]
    cases attempt <;> rfl
  have otherBuilt : (other.requirement context vendor).result =
      attempt.map fun value => other.requirementOf (otherCriteriaOf value) := by
    rw [result_requirement_of_criteria otherNotBlank, otherResult_eq]
    cases attempt <;> rfl
  exact demand_rel availability_eq built otherBuilt same

/-! ## Any flights -/

/-- Where nothing is coded in the slots and nothing joins them, any flight will do. -/
theorem result_criteria_of_uncoded
    (noRange : record.application.isRange = false)
    (firstNot : record.slots.first.isCoded = false)
    (secondNot : record.slots.second.isCoded = false)
    (thirdNot : record.slots.third.isCoded = false)
    (noRelation1 : record.relation1 = none)
    (noRelation2 : record.relation2 = none) :
    (record.criteria context vendor).result = .ok (.leaf .anyFlown) := by
  simp only [criteria_eq, readsRange, noRange, Bool.false_and, Bool.false_eq_true, if_false,
    firstCondition, Slot.joined, firstNot, secondNot, thirdNot, noRelation1, noRelation2,
    Bool.or_false]
  rfl

end RuleRecord

/--
A record without application has the outcomes of the record that asks for flights, with nothing
coded in its slots and nothing that joins them: a window without a flight is decided before the
requirement is looked at.
-/
theorem outcome_of_any_flight
    (record : RuleRecord)
    (use : RuleUse)
    (vendor : String)
    (compileContext context : Context)
    (blank : record.application = .blank)
    (slots : Slots)
    (firstNot : slots.first.isCoded = false)
    (secondNot : slots.second.isCoded = false)
    (thirdNot : slots.third.isCoded = false) :
    let anyFlight : RuleRecord :=
      { record with application := .must, slots, relation1 := none, relation2 := none }
    (record.compile use vendor compileContext).SameOutcomes context
      (anyFlight.compile use vendor compileContext) context := by
  intro anyFlight
  have result_eq : (record.requirement compileContext vendor).result =
      (.ok () : Except Defect Unit).map fun _ =>
        ⟨none, record.filters, ShapeConstraint.ofFlags record.shape record.geo.hidden⟩ := by
    rw [record.result_requirement, if_pos blank]
    rfl
  have anyResult_eq : (anyFlight.requirement compileContext vendor).result =
      (.ok () : Except Defect Unit).map fun _ => record.requirementOf (.leaf .anyFlown) := by
    rw [RuleRecord.result_requirement_of_criteria (by simp [anyFlight]),
      RuleRecord.result_criteria_of_uncoded rfl firstNot secondNot thirdNot rfl rfl]
    rfl
  apply RuleRecord.sameOutcomes_of_demand use
  · rfl
  · rfl
  · rw [blank]
    rfl
  · refine RuleRecord.demand_rel rfl result_eq anyResult_eq fun _ inside opposite someFlown => ?_
    have flown : ∃ segment ∈ inside, segment.isFlown = true :=
      List.countP_pos_iff.1 (Nat.pos_of_ne_zero someFlown)
    exact Requirement.isMet_without_criteria flown opposite

/-- Any flights have to be by aircraft of one type; the carrier that is coded does not count. -/
def byAircraft : RuleRecord where
  vendor := "ATP"
  itemNo := 1
  slots := { first := .literal "DL" (-1) }
  equipment := "738"

/-- A flight by an aircraft of some type. -/
def flightBy (carrier equipment : String) : Segment :=
  { Segment.air carrier 1 default default with equipment }

/-- Each flight counts for a record that asks for any flight, as it does without application. -/
theorem outcome_of_aircraft :
    let anyFlight : RuleRecord :=
      { byAircraft with application := .must, slots := {}, relation1 := none, relation2 := none }
    let outcomeOn (segments : List Segment) :=
      (anyFlight.compile .primary "ATP" {}).outcome {} ⟨segments, .unknown⟩
    byAircraft.application = .blank ∧ ({} : Slot).isCoded = false ∧
      outcomeOn [flightBy "DL" "738", .surface default default, flightBy "AA" " 738"] = .pass ∧
      outcomeOn [flightBy "DL" "738", flightBy "AA" "320"] = .fail ∧
      outcomeOn [.openFlight "DL" default default] = .pass := by
  intro anyFlight outcomeOn
  have same := outcome_of_any_flight byAircraft .primary "ATP" {} {} rfl {} rfl rfl rfl
  refine ⟨rfl, rfl, ?_, ?_, ?_⟩
  · exact (same.outcome_eq _).symm.trans (by decide)
  · exact (same.outcome_eq _).symm.trans (by decide)
  · exact (same.outcome_eq _).symm.trans (by decide)

/-! ## Ranges of flight numbers -/

/-- The application that asks for flights in place of a range of flights. -/
def Application.withoutRange : Application → Application
  | mustRange => must
  | mustNotRange => mustNot
  | blank => blank
  | must => must
  | mustNot => mustNot

@[simp] theorem Application.isNegative_withoutRange (application : Application) :
    application.withoutRange.isNegative = application.isNegative := by
  cases application <;> rfl

@[simp] theorem Application.isRange_withoutRange (application : Application) :
    application.withoutRange.isRange = false := by
  cases application <;> rfl

theorem Application.withoutRange_ne_blank
    {application : Application}
    (range : application.isRange = true) :
    application.withoutRange ≠ .blank := by
  cases application <;> simp_all [withoutRange, isRange]

namespace RuleRecord

/-- The row of a flight table for the range of a record, whoever operates the flights. -/
def rangeRow (record : RuleRecord) (operatingCarrier : String) : FlightRow where
  marketingCarrier := record.slots.first.carrier
  operatingCarrier
  first := record.slots.first.flight
  last := record.slots.second.flight

/-- The record with a slot for a flight table in place of the two slots of its range. -/
def withTable (record : RuleRecord) (reference : Slot) : RuleRecord :=
  { record with
    application := record.application.withoutRange
    slots := { first := reference, third := record.slots.third }
    relation1 := none }

variable {record : RuleRecord} {context : Context} {vendor : String}

/-- The criteria of a range are the condition of the range, and what is joined to it. -/
theorem result_criteria_of_range (range : record.SpansRange context.settings) :
    (record.criteria context vendor).result =
      (record.slots.third.joined record.relation2 2 context vendor).result.map fun third =>
        .chain (.flight (.literal (Text.trim record.slots.first.carrier)
          (.ofRange record.slots.first.flight record.slots.second.flight))) none third := by
  rw [criteria_eq, Build.result_bind_of_ok rfl, if_pos (readsRange_eq_true_iff.2 range),
    Build.result_bind_of_ok record.result_rangeCondition, Build.result_bind]
  cases (record.slots.third.joined record.relation2 2 context vendor).result <;> rfl

/-- The criteria of a flight table are its condition, and what is joined to it. -/
theorem result_criteria_withTable
    {reference : Slot}
    {table : FlightTable}
    (referenced : reference.tableItem ≠ 0)
    (found : context.tables vendor reference.tableItem = some table) :
    ((record.withTable reference).criteria context vendor).result =
      (record.slots.third.joined record.relation2 2 context vendor).result.map fun third =>
        .chain (.table (.ofTable table)) none third := by
  have coded : reference.isCoded = true := by simp [Slot.isCoded, referenced]
  have notRange : (record.withTable reference).readsRange context.settings = false := by
    simp [readsRange, withTable]
  have first_eq : ((record.withTable reference).firstCondition context vendor).result =
      .ok (.table (.ofTable table)) := by
    change (if reference.isCoded then reference.condition context vendor else _).result = _
    rw [if_pos coded, Slot.condition, if_neg referenced, found]
    rfl
  have second_eq :
      ((record.withTable reference).slots.second.joined (record.withTable reference).relation1 1
        context vendor).result = .ok none := rfl
  rw [criteria_eq, Build.result_bind_of_ok rfl, if_neg (by simp [notRange]),
    Build.result_bind_of_ok first_eq, Build.result_bind_of_ok second_eq, Build.result_bind]
  change (record.slots.third.joined record.relation2 2 context vendor).result >>= _ = _
  cases (record.slots.third.joined record.relation2 2 context vendor).result <;> rfl

end RuleRecord

/-- Where alliances do not count, a carrier meets a pattern whether they are admitted or not. -/
theorem CarrierPattern.accepts_of_not_round_the_world
    {context : Context}
    (notRound : context.roundTheWorld = false)
    (pattern : CarrierPattern)
    (allianceAware : Bool)
    (code : String) :
    pattern.accepts allianceAware context code = pattern.accepts false context code := by
  cases pattern with
  | any => rfl
  | exact expected => simp [accepts, notRound]

/-- A range of a carrier's flights accepts what a flight table accepts whose one row it is. -/
theorem Condition.accepts_range_eq_accepts_table
    {record : RuleRecord}
    {context : Context}
    {operatingCarrier : String}
    {table : FlightTable}
    (notRound : context.roundTheWorld = false)
    (anyOperating : Text.trim operatingCarrier = "")
    (rows_eq : table.rows = [record.rangeRow operatingCarrier])
    (segment : Segment) :
    (Condition.flight (.literal (Text.trim record.slots.first.carrier)
        (.ofRange record.slots.first.flight record.slots.second.flight))).accepts context segment =
      (Condition.table (.ofTable table)).accepts context segment := by
  have carrier_eq : CarrierPattern.ofCode (Text.trim record.slots.first.carrier) =
      .ofCode record.slots.first.carrier := by
    rw [CarrierPattern.ofCode, Text.trim_trim, ← CarrierPattern.ofCode]
  have operating_eq : CarrierPattern.ofCode operatingCarrier = .any := if_pos anyOperating
  simp only [accepts, TableCondition.accepts, TableCondition.ofTable, rows_eq, List.map_cons,
    List.map_nil, List.any_cons, List.any_nil, Bool.or_false, FlightCondition.accepts,
    FlightCondition.literal, FlightCondition.ofRow, RuleRecord.rangeRow, carrier_eq, operating_eq,
    CarrierPattern.accepts_of_not_round_the_world notRound _ true]
  cases segment.isFlown <;> rfl

/--
Outside of tickets round the world, a record for a range of flights has the outcomes of the record
that references a flight table with one row, for the first carrier between the two flight numbers.
The carrier of the second slot and the relation between the two slots have no effect.
-/
theorem outcome_of_range_as_table
    (record : RuleRecord)
    (use : RuleUse)
    (vendor : String)
    (compileContext context : Context)
    (range : record.application.isRange = true)
    (firstNoTable : record.slots.first.tableItem = 0)
    (secondNoTable : record.slots.second.tableItem = 0)
    (reference : Slot)
    (referenced : reference.tableItem ≠ 0)
    (table : FlightTable)
    (found : compileContext.tables vendor reference.tableItem = some table)
    (operatingCarrier : String)
    (anyOperating : Text.trim operatingCarrier = "")
    (rows_eq : table.rows = [record.rangeRow operatingCarrier])
    (notRound : context.roundTheWorld = false) :
    (record.compile use vendor compileContext).SameOutcomes context
      ((record.withTable reference).compile use vendor compileContext) context := by
  have spansRange : record.SpansRange compileContext.settings :=
    ⟨range, .inl ⟨firstNoTable, secondNoTable⟩⟩
  have notBlank : record.application ≠ .blank := by
    rintro blank
    rw [blank] at range
    cases range
  apply RuleRecord.sameOutcomes_of_demand use
  · rfl
  · rfl
  · exact record.application.isNegative_withoutRange.symm
  · refine RuleRecord.demand_rel_of_criteria rfl notBlank (Application.withoutRange_ne_blank range)
      (RuleRecord.result_criteria_of_range spansRange)
      (RuleRecord.result_criteria_withTable referenced found) fun third inside opposite _ => ?_
    have firstSame := Criteria.MeansSame.leaf
      (Condition.accepts_range_eq_accepts_table notRound anyOperating rows_eq)
    exact Requirement.isMet_of_meansSame (firstSame.chain none third) inside opposite

/-- A range from behind, with a second carrier, before a connection to a third one. -/
def rangeAndConnection : RuleRecord where
  vendor := "ATP"
  itemNo := 1
  application := .mustRange
  slots := {
    first := .literal " dl" 199
    second := .literal "AA" 100
    third := .literal "UA" (-1) }
  relation1 := some .or
  relation2 := some .connecting

/-- A flight table with the range for its only row. -/
def tableOfRange : Context where
  tables := fun vendor item => some ⟨vendor, item, [⟨" dl", " ", 199, 100⟩]⟩

/-- By the flight table as by the range, a flight of the range has to connect. -/
theorem outcome_of_range_before_connection :
    let tabled := (rangeAndConnection.withTable (.table 5)).compile .primary "ATP" tableOfRange
    let journey (flightNumber : UInt32) : Itinerary :=
      ⟨[.air "DL" flightNumber default default, .air "UA" 7 default default], .unknown⟩
    rangeAndConnection.application.isRange = true ∧
      (Slot.table 5).tableItem ≠ 0 ∧ Text.trim " " = "" ∧
      tabled.outcome tableOfRange (journey 150) = .pass ∧
      tabled.outcome tableOfRange (journey 200) = .fail := by
  intro tabled journey
  have anyOperating : Text.trim " " = "" := by decide
  have same := outcome_of_range_as_table rangeAndConnection .primary "ATP" tableOfRange
    tableOfRange rfl rfl rfl (.table 5) (by decide) _ rfl " " anyOperating rfl rfl
  refine ⟨rfl, by decide, anyOperating, ?_, ?_⟩
  · exact (same.outcome_eq (journey 150)).symm.trans (by decide)
  · exact (same.outcome_eq (journey 200)).symm.trans (by decide)

/-- On a ticket round the world, the row of the flight table also stands for an alliance. -/
example :
    let context : Context := { tableOfRange with
      roundTheWorld := true
      alliances := fun _ => .ofList ["DL"] }
    let itinerary : Itinerary :=
      ⟨[.air "KL" 150 default default, .air "UA" 7 default default], .unknown⟩
    (rangeAndConnection.compile .primary "ATP" tableOfRange).outcome context itinerary = .fail ∧
      ((rangeAndConnection.withTable (.table 5)).compile .primary "ATP" tableOfRange).outcome
        context itinerary = .pass := by
  decide

end FlightRule
