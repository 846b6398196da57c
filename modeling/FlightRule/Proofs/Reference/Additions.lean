import FlightRule.Proofs.Ordered.Map
import FlightRule.Reference.Data

/-!
# Reference data and what was added to them

Reference data are filled by additions, one after the other.  What they find can be read off the
list of these additions: the table, item or boundary that was added last under a key, and every
alliance that was added to a carrier (`lookups_of_additions`).  Each part of the data is a fold over
the additions that belong to it, and additions to one part have no effect on the lookups in another
(`ReferenceData.sameLookups_of_other_part`).
-/

namespace FlightRule

/-- The parts of reference data, each with lookups of its own. -/
inductive ReferencePart where
  | tables
  | geoItems
  | tripStructures
  | alliances
deriving DecidableEq

/-- Something that is added to reference data. -/
inductive Addition where
  | table (table : FlightTable)
  | geoItem (item : GeoItem)
  | tripStructure (number : UInt32) (boundary : Boundary)
  | allianceMember (carrier alliance : String)

namespace Addition

/-- The part of the data that is added to. -/
def part : Addition → ReferencePart
  | table _ => .tables
  | geoItem _ => .geoItems
  | tripStructure _ _ => .tripStructures
  | allianceMember _ _ => .alliances

/-- The data after the addition. -/
def apply : Addition → ReferenceData → ReferenceData
  | table added, data => data.addTable added
  | geoItem item, data => data.addGeoItem item
  | tripStructure number boundary, data => data.addTripStructure number boundary
  | allianceMember carrier alliance, data => data.addAllianceMember carrier alliance

/-- An added table with the key that it is kept under. -/
def asTable? : Addition → Option (ItemKey × FlightTable)
  | table added => some (added.key, added)
  | _ => none

/-- An added geographic item with the key that it is kept under. -/
def asGeoItem? : Addition → Option (ItemKey × GeoItem)
  | geoItem item => some (item.key, item)
  | _ => none

/-- An added boundary with the number of its trip structure. -/
def asTripStructure? : Addition → Option (UInt32 × Boundary)
  | tripStructure number boundary => some (number, boundary)
  | _ => none

end Addition

namespace ReferenceData

/-- The data after some additions to no data. -/
def ofAdditions (additions : List Addition) : ReferenceData :=
  additions.foldl (fun data addition => addition.apply data) {}

/-- The lookups in a part find the same. -/
def SameLookups (data other : ReferenceData) : ReferencePart → Prop
  | .tables =>
      data.tableCount = other.tableCount ∧
        ∀ vendor itemNo, data.table? vendor itemNo = other.table? vendor itemNo
  | .geoItems =>
      data.geoItemCount = other.geoItemCount ∧
        ∀ vendor itemNo, data.geoItem? vendor itemNo = other.geoItem? vendor itemNo
  | .tripStructures => ∀ number, data.tripStructure? number = other.tripStructure? number
  | .alliances => ∀ carrier, data.alliancesOf carrier = other.alliancesOf carrier

variable {additions : List Addition} {data : ReferenceData} {part : ReferencePart}

theorem ofAdditions_concat (additions : List Addition) (addition : Addition) :
    ofAdditions (additions ++ [addition]) = addition.apply (ofAdditions additions) := by
  rw [ofAdditions, List.foldl_concat]
  rfl

/-! ## Values under keys -/

section Component

variable
  {κ α : Type}
  [Ord κ]
  [Std.TransOrd κ]
  [Std.LawfulEqOrd κ]
  {component : ReferenceData → OrderedMap κ α}
  {keyed? : Addition → Option (κ × α)}

/-- A map in the data that additions put entries into is the map of these entries. -/
theorem component_ofAdditions
    (start : component {} = .empty)
    (step : ∀ addition data, component (addition.apply data) =
      (keyed? addition).elim (component data) fun (key, value) =>
        (component data).insert key value)
    (additions : List Addition) :
    component (ofAdditions additions) = .ofList (additions.filterMap keyed?) := by
  induction additions using List.reverseRecOn with
  | nil => exact start
  | append_singleton additions addition inductionHypothesis =>
      rw [ofAdditions_concat, step, inductionHypothesis, List.filterMap_append, OrderedMap.ofList,
        OrderedMap.ofList, List.foldl_append]
      cases entry_eq : keyed? addition with
      | none => rw [List.filterMap_cons_none entry_eq]; rfl
      | some entry => rw [List.filterMap_cons_some entry_eq]; rfl

/-- An addition that puts no entry into a map of the data might as well be left out. -/
theorem component_of_no_entry
    (read : ∀ additions,
      component (ofAdditions additions) = .ofList (additions.filterMap keyed?))
    {addition : Addition}
    (noEntry : keyed? addition = none)
    (before after : List Addition) :
    component (ofAdditions (before ++ addition :: after)) =
      component (ofAdditions (before ++ after)) := by
  rw [read, read, List.filterMap_append, List.filterMap_cons_none noEntry, ← List.filterMap_append]

end Component

theorem tables_ofAdditions (additions : List Addition) :
    (ofAdditions additions).tables = .ofList (additions.filterMap Addition.asTable?) := by
  refine component_ofAdditions rfl (fun addition data => ?_) additions
  cases addition with
  | table table => exact congrArg tables (data.addTable_eq table)
  | _ => rfl

theorem geoItems_ofAdditions (additions : List Addition) :
    (ofAdditions additions).geoItems = .ofList (additions.filterMap Addition.asGeoItem?) := by
  refine component_ofAdditions rfl (fun addition data => ?_) additions
  cases addition with
  | geoItem item => exact congrArg geoItems (data.addGeoItem_eq item)
  | _ => rfl

theorem tripStructures_ofAdditions (additions : List Addition) :
    (ofAdditions additions).tripStructures =
      .ofList (additions.filterMap Addition.asTripStructure?) := by
  refine component_ofAdditions rfl (fun addition data => ?_) additions
  cases addition <;> rfl

/-- A table is found as it was added last. -/
theorem table?_ofAdditions (additions : List Addition) (vendor : String) (itemNo : UInt32) :
    (ofAdditions additions).table? vendor itemNo =
      Ordered.latest? (additions.filterMap Addition.asTable?) ⟨vendor, itemNo⟩ := by
  rw [table?, tables_ofAdditions, OrderedMap.find?_ofList]

/-- A geographic item is found as it was added last. -/
theorem geoItem?_ofAdditions (additions : List Addition) (vendor : String) (itemNo : UInt32) :
    (ofAdditions additions).geoItem? vendor itemNo =
      Ordered.latest? (additions.filterMap Addition.asGeoItem?) ⟨vendor, itemNo⟩ := by
  rw [geoItem?, geoItems_ofAdditions, OrderedMap.find?_ofList]

/-- A trip structure is found as it was added last. -/
theorem tripStructure?_ofAdditions (additions : List Addition) (number : UInt32) :
    (ofAdditions additions).tripStructure? number =
      Ordered.latest? (additions.filterMap Addition.asTripStructure?) number := by
  rw [tripStructure?, tripStructures_ofAdditions, OrderedMap.find?_ofList]

/-- A table is only kept under its own key. -/
theorem key_of_table?_ofAdditions
    {vendor : String}
    {itemNo : UInt32}
    {table : FlightTable}
    (found : (ofAdditions additions).table? vendor itemNo = some table) :
    table.key = ⟨vendor, itemNo⟩ := by
  rw [table?_ofAdditions] at found
  obtain ⟨addition, _, entry_eq⟩ := List.mem_filterMap.1 (Ordered.mem_of_latest? found)
  cases addition <;> cases entry_eq
  rfl

/-- A geographic item is only kept under its own key. -/
theorem key_of_geoItem?_ofAdditions
    {vendor : String}
    {itemNo : UInt32}
    {item : GeoItem}
    (found : (ofAdditions additions).geoItem? vendor itemNo = some item) :
    item.key = ⟨vendor, itemNo⟩ := by
  rw [geoItem?_ofAdditions] at found
  obtain ⟨addition, _, entry_eq⟩ := List.mem_filterMap.1 (Ordered.mem_of_latest? found)
  cases addition <;> cases entry_eq
  rfl

/-! ## Alliances -/

theorem mem_alliancesOf_addAllianceMember {member alliance carrier name : String} :
    name ∈ ((data.addAllianceMember member alliance).alliancesOf carrier).toList ↔
      (Text.upper member = Text.upper carrier ∧ Text.upper alliance = name) ∨
        name ∈ (data.alliancesOf carrier).toList := by
  simp only [alliancesOf, addAllianceMember, OrderedMap.find?_insert, beq_iff_eq]
  by_cases same : Text.upper carrier = Text.upper member
  · rw [if_pos same, Option.getD_some, OrderedSet.mem_toList_insert, same]
    simp [eq_comm]
  · rw [if_neg same]
    simp [Ne.symm same]

/-- Only the addition of a member changes the alliances of a carrier. -/
theorem mem_alliancesOf_apply {addition : Addition} {carrier name : String} :
    name ∈ ((addition.apply data).alliancesOf carrier).toList ↔
      (∃ member alliance, addition = .allianceMember member alliance ∧
        Text.upper member = Text.upper carrier ∧ Text.upper alliance = name) ∨
        name ∈ (data.alliancesOf carrier).toList := by
  cases addition with
  | table table => simp [Addition.apply, addTable_eq, alliancesOf]
  | geoItem item => simp [Addition.apply, addGeoItem_eq, alliancesOf]
  | tripStructure number boundary =>
      simp [Addition.apply, addTripStructure, alliancesOf]
  | allianceMember member alliance =>
      rw [Addition.apply, mem_alliancesOf_addAllianceMember]
      simp

/--
A carrier has the alliances that were added to it, last or before, however its code was written.
-/
theorem mem_alliancesOf_ofAdditions {carrier name : String} :
    name ∈ ((ofAdditions additions).alliancesOf carrier).toList ↔
      ∃ member alliance, .allianceMember member alliance ∈ additions ∧
        Text.upper member = Text.upper carrier ∧ Text.upper alliance = name := by
  induction additions using List.reverseRecOn with
  | nil => simp [ofAdditions, alliancesOf, OrderedSet.empty]
  | append_singleton additions addition inductionHypothesis =>
      rw [ofAdditions_concat, mem_alliancesOf_apply, inductionHypothesis]
      simp only [List.mem_append, List.mem_singleton, eq_comm (a := addition)]
      constructor
      · rintro (⟨member, alliance, last, same⟩ | ⟨member, alliance, earlier, same⟩)
        · exact ⟨member, alliance, .inr last, same⟩
        · exact ⟨member, alliance, .inl earlier, same⟩
      · rintro ⟨member, alliance, earlier | last, same⟩
        · exact .inr ⟨member, alliance, earlier, same⟩
        · exact .inl ⟨member, alliance, last, same⟩

/-! ## Additions to other parts -/

/-- Additions to one part of the data are not seen by the lookups in another. -/
theorem sameLookups_of_other_part
    (before after : List Addition)
    {addition : Addition}
    (otherPart : addition.part ≠ part) :
    (ofAdditions (before ++ addition :: after)).SameLookups
      (ofAdditions (before ++ after)) part := by
  cases part with
  | tables =>
      have noEntry : addition.asTable? = none := by
        cases addition with
        | table => exact absurd rfl otherPart
        | _ => rfl
      have same := component_of_no_entry tables_ofAdditions noEntry before after
      refine ⟨congrArg OrderedMap.size same, fun vendor itemNo => ?_⟩
      rw [table?, table?, same]
  | geoItems =>
      have noEntry : addition.asGeoItem? = none := by
        cases addition with
        | geoItem => exact absurd rfl otherPart
        | _ => rfl
      have same := component_of_no_entry geoItems_ofAdditions noEntry before after
      refine ⟨congrArg OrderedMap.size same, fun vendor itemNo => ?_⟩
      rw [geoItem?, geoItem?, same]
  | tripStructures =>
      have noEntry : addition.asTripStructure? = none := by
        cases addition with
        | tripStructure => exact absurd rfl otherPart
        | _ => rfl
      have same := component_of_no_entry tripStructures_ofAdditions noEntry before after
      intro number
      rw [tripStructure?, tripStructure?, same]
  | alliances =>
      have notMember (member alliance : String) : addition ≠ .allianceMember member alliance := by
        rintro rfl
        exact otherPart rfl
      intro carrier
      ext name
      rw [mem_alliancesOf_ofAdditions, mem_alliancesOf_ofAdditions]
      simp [(notMember _ _).symm]

end ReferenceData

/--
After any additions to no data, a table, a geographic item and the boundary of a trip structure are
found as they were last added under the key that is asked for, and under no other key.  To add a
table or an item gives back what was found under its key before.  There are as many tables and items
as different keys were added.  A carrier has the upper-case forms of all alliances that were added
to a code with the same upper-case form.  The lookups in one part of the data do not see what is
added to another.
-/
theorem lookups_of_additions (additions : List Addition) :
    let data := ReferenceData.ofAdditions additions
    let tables := additions.filterMap Addition.asTable?
    let geoItems := additions.filterMap Addition.asGeoItem?
    let tripStructures := additions.filterMap Addition.asTripStructure?
    ((∀ vendor itemNo, data.table? vendor itemNo = Ordered.latest? tables ⟨vendor, itemNo⟩) ∧
      (∀ vendor itemNo, data.geoItem? vendor itemNo = Ordered.latest? geoItems ⟨vendor, itemNo⟩) ∧
      ∀ number, data.tripStructure? number = Ordered.latest? tripStructures number) ∧
    ((∀ vendor itemNo table, data.table? vendor itemNo = some table →
        table.vendor = vendor ∧ table.itemNo = itemNo) ∧
      ∀ vendor itemNo item, data.geoItem? vendor itemNo = some item →
        item.vendor = vendor ∧ item.itemNo = itemNo) ∧
    ((∀ table, (data.exchangeTable table).1 = data.table? table.vendor table.itemNo) ∧
      ∀ item, (data.exchangeGeoItem item).1 = data.geoItem? item.vendor item.itemNo) ∧
    (data.tableCount = (tables.map Prod.fst).toFinset.card ∧
      data.geoItemCount = (geoItems.map Prod.fst).toFinset.card) ∧
    (∀ carrier name, name ∈ (data.alliancesOf carrier).toList ↔
      ∃ member alliance, .allianceMember member alliance ∈ additions ∧
        Text.upper member = Text.upper carrier ∧ Text.upper alliance = name) ∧
    ∀ before addition after, additions = before ++ addition :: after →
      ∀ part, addition.part ≠ part →
        data.SameLookups (ReferenceData.ofAdditions (before ++ after)) part := by
  intro data tables geoItems tripStructures
  refine ⟨⟨?_, ?_, ?_⟩, ⟨?_, ?_⟩, ⟨?_, ?_⟩, ⟨?_, ?_⟩, ?_, ?_⟩
  · exact ReferenceData.table?_ofAdditions additions
  · exact ReferenceData.geoItem?_ofAdditions additions
  · exact ReferenceData.tripStructure?_ofAdditions additions
  · intro vendor itemNo table found
    exact ItemKey.mk.inj (ReferenceData.key_of_table?_ofAdditions found)
  · intro vendor itemNo item found
    exact ItemKey.mk.inj (ReferenceData.key_of_geoItem?_ofAdditions found)
  · exact data.exchangeTable_fst
  · exact data.exchangeGeoItem_fst
  · rw [ReferenceData.tableCount, ReferenceData.tables_ofAdditions, OrderedMap.size_ofList]
  · rw [ReferenceData.geoItemCount, ReferenceData.geoItems_ofAdditions, OrderedMap.size_ofList]
  · intro carrier name
    exact ReferenceData.mem_alliancesOf_ofAdditions
  · rintro before addition after rfl part otherPart
    exact ReferenceData.sameLookups_of_other_part before after otherPart

/-- A table that is replaced, between additions to other parts of the data. -/
def replacedTable : List Addition :=
  [.table ⟨"ATP", 1, [⟨"DL", "", 1000, 1999⟩]⟩, .allianceMember "dl" "SkyTeam",
    .tripStructure 1 {}, .table ⟨"ATP", 1, []⟩, .allianceMember "DL" "oneworld"]

/-- The later table counts, and the alliances of both writings of the carrier. -/
theorem lookups_of_replaced_table :
    let data := ReferenceData.ofAdditions replacedTable
    data.table? "ATP" 1 = some ⟨"ATP", 1, []⟩ ∧ data.table? "ATP" 2 = none ∧
      (data.exchangeTable ⟨"ATP", 1, []⟩).1 = some ⟨"ATP", 1, []⟩ ∧ data.tableCount = 1 ∧
      "SKYTEAM" ∈ (data.alliancesOf "Dl").toList ∧ "ONEWORLD" ∈ (data.alliancesOf "Dl").toList ∧
      data.SameLookups (ReferenceData.ofAdditions
        [.table ⟨"ATP", 1, [⟨"DL", "", 1000, 1999⟩]⟩, .allianceMember "dl" "SkyTeam",
          .table ⟨"ATP", 1, []⟩, .allianceMember "DL" "oneworld"]) .alliances := by
  intro data
  obtain ⟨⟨latestTable, _, _⟩, _, ⟨replaced, _⟩, ⟨tableCount, _⟩, alliances, otherParts⟩ :=
    lookups_of_additions replacedTable
  have found : data.table? "ATP" 1 = some ⟨"ATP", 1, []⟩ := (latestTable "ATP" 1).trans (by decide)
  refine ⟨found, (latestTable "ATP" 2).trans (by decide), (replaced _).trans found,
    tableCount.trans (by decide), ?_, ?_, ?_⟩
  · exact (alliances "Dl" "SKYTEAM").2 ⟨"dl", "SkyTeam", by simp [replacedTable], by decide⟩
  · exact (alliances "Dl" "ONEWORLD").2 ⟨"DL", "oneworld", by simp [replacedTable], by decide⟩
  · exact otherParts [_, _] (.tripStructure 1 {}) [_, _] rfl .alliances (by decide)

end FlightRule
