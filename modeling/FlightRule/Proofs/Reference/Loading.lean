import FlightRule.Proofs.Reference.Additions
import FlightRule.Reference.Data

/-!
# Loading of reference documents

A document is loaded by adding what it lists, one after the other, and stops at the first table or
geographic item that takes the place of another.  So it fails at the first key that occurs for the
second time, and where no key does, its reference data are those of all additions that it lists
(`ReferenceDocument.load_of_nodup`).  Nothing is lost then, and nothing is joined but the alliances
of carriers whose codes differ in letter case (`load_of_document`).
-/

namespace FlightRule

/-- The key is the first in a list that occurs for the second time. -/
def FirstRepeat {κ : Type} (keys : List κ) (key : κ) : Prop :=
  ∃ before after, keys = before ++ key :: after ∧ before.Nodup ∧ key ∈ before

/-- Where keys are repeated, one of them is the first to be. -/
theorem exists_firstRepeat {κ : Type} {keys : List κ} (repeated : ¬keys.Nodup) :
    ∃ key, FirstRepeat keys key := by
  induction keys using List.reverseRecOn with
  | nil => exact absurd List.nodup_nil repeated
  | append_singleton keys last inductionHypothesis =>
      by_cases nodup : keys.Nodup
      · refine ⟨last, keys, [], rfl, nodup, ?_⟩
        by_contra notBefore
        apply repeated
        rw [← List.concat_eq_append]
        exact nodup.concat notBefore
      · obtain ⟨key, before, after, rfl, earlier⟩ := inductionHypothesis nodup
        exact ⟨key, before, after ++ [last], by simp, earlier⟩

namespace ReferenceDocument

/-! ## One addition after the other -/

section AddAll

variable
  {α : Type}
  {exchange : ReferenceData → α → Option α × ReferenceData}
  {duplicate : α → ReferenceError}
  {keyOf : α → ItemKey}
  {keysOf : ReferenceData → List ItemKey}

theorem addAll_append (data : ReferenceData) (before after : List α) :
    addAll exchange duplicate data (before ++ after) =
      addAll exchange duplicate data before >>= fun extended =>
        addAll exchange duplicate extended after := by
  induction before generalizing data with
  | nil => rfl
  | cons item before inductionHypothesis =>
      rw [List.cons_append, addAll, addAll]
      split
      · exact inductionHypothesis _
      · rfl

/-- An exchange keeps items under their keys, and gives back what had the same key. -/
structure KeepsKeys
    (exchange : ReferenceData → α → Option α × ReferenceData)
    (keyOf : α → ItemKey)
    (keysOf : ReferenceData → List ItemKey) : Prop where
  isSome_fst_iff : ∀ data item, (exchange data item).1.isSome = true ↔ keyOf item ∈ keysOf data
  mem_keysOf_snd : ∀ data item key,
    key ∈ keysOf (exchange data item).2 ↔ key = keyOf item ∨ key ∈ keysOf data

/-- Items with different keys, none of which is there, are all added. -/
theorem KeepsKeys.addAll_of_nodup
    (keeps : KeepsKeys exchange keyOf keysOf)
    (duplicate : α → ReferenceError)
    {data : ReferenceData}
    {items : List α}
    (nodup : (items.map keyOf).Nodup)
    (fresh : ∀ item ∈ items, keyOf item ∉ keysOf data) :
    addAll exchange duplicate data items =
      .ok (items.foldl (fun data item => (exchange data item).2) data) := by
  induction items generalizing data with
  | nil => rfl
  | cons item items inductionHypothesis =>
      obtain ⟨notLater, laterNodup⟩ := List.nodup_cons.1 nodup
      have nothingReplaced : (exchange data item).1 = none := by
        rw [← Option.not_isSome_iff_eq_none, keeps.isSome_fst_iff]
        exact fresh item List.mem_cons_self
      have laterFresh : ∀ later ∈ items, keyOf later ∉ keysOf (exchange data item).2 := by
        intro later member known
        rcases (keeps.mem_keysOf_snd data item _).1 known with same | known
        · exact notLater (List.mem_map.2 ⟨later, member, same⟩)
        · exact fresh later (List.mem_cons_of_mem _ member) known
      rw [addAll, List.foldl_cons, ← inductionHypothesis laterNodup laterFresh]
      generalize exchange data item = exchanged at nothingReplaced ⊢
      obtain ⟨replaced, extended⟩ := exchanged
      cases nothingReplaced
      rfl

theorem KeepsKeys.mem_keysOf_foldl
    (keeps : KeepsKeys exchange keyOf keysOf)
    {data : ReferenceData}
    {items : List α}
    {key : ItemKey} :
    key ∈ keysOf (items.foldl (fun data item => (exchange data item).2) data) ↔
      key ∈ items.map keyOf ∨ key ∈ keysOf data := by
  induction items generalizing data with
  | nil => simp
  | cons item items inductionHypothesis =>
      rw [List.foldl_cons, inductionHypothesis, keeps.mem_keysOf_snd, List.map_cons, List.mem_cons]
      tauto

/-- The first item with a key that was there before is a duplicate. -/
theorem KeepsKeys.addAll_of_firstRepeat
    (keeps : KeepsKeys exchange keyOf keysOf)
    (duplicate : ItemKey → ReferenceError)
    {data : ReferenceData}
    {items : List α}
    {key : ItemKey}
    (empty : keysOf data = [])
    (repeats : FirstRepeat (items.map keyOf) key) :
    addAll exchange (fun item => duplicate (keyOf item)) data items = .error (duplicate key) := by
  obtain ⟨keysBefore, keysAfter, split, nodup, member⟩ := repeats
  obtain ⟨before, rest, rfl, rfl, rest_eq⟩ := List.map_eq_append_iff.1 split
  obtain ⟨item, after, rfl, rfl, rfl⟩ := List.map_eq_cons_iff.1 rest_eq
  have replaces : (exchange (before.foldl (fun data item => (exchange data item).2) data)
      item).1.isSome = true :=
    (keeps.isSome_fst_iff _ _).2 (keeps.mem_keysOf_foldl.2 (.inl member))
  rw [addAll_append, keeps.addAll_of_nodup _ nodup (by simp [empty])]
  change addAll exchange _ _ (item :: after) = _
  rw [addAll]
  split
  next nothingReplaced => simp [nothingReplaced] at replaces
  next => rfl

end AddAll

theorem keepsKeys_exchangeTable :
    KeepsKeys ReferenceData.exchangeTable FlightTable.key fun data => data.tables.keys where
  isSome_fst_iff data table := by
    rw [ReferenceData.exchangeTable_fst, OrderedMap.mem_keys_iff_isSome]
    rfl
  mem_keysOf_snd data table key := by
    change key ∈ (data.addTable table).tables.keys ↔ _
    rw [ReferenceData.addTable_eq, OrderedMap.mem_keys_insert]

theorem keepsKeys_exchangeGeoItem :
    KeepsKeys ReferenceData.exchangeGeoItem GeoItem.key fun data => data.geoItems.keys where
  isSome_fst_iff data item := by
    rw [ReferenceData.exchangeGeoItem_fst, OrderedMap.mem_keys_iff_isSome]
    rfl
  mem_keysOf_snd data item key := by
    change key ∈ (data.addGeoItem item).geoItems.keys ↔ _
    rw [ReferenceData.addGeoItem_eq, OrderedMap.mem_keys_insert]

/-! ## All additions of a document -/

/-- What a document adds to no data, in this order. -/
def additions (document : ReferenceDocument) : List Addition :=
  document.tables.map .table ++
    document.geoItems.map .geoItem ++
      document.tripStructures.entries.map
          (fun (number, boundary) => .tripStructure number boundary) ++
        document.alliances.entries.flatMap fun (carrier, alliances) =>
          alliances.toList.map (.allianceMember carrier)

variable {document : ReferenceDocument}

/-- Tables add no geographic items. -/
theorem geoItems_of_tables (tables : List FlightTable) :
    (ReferenceData.ofAdditions (tables.map .table)).geoItems = .empty := by
  have noItems : (tables.map Addition.table).filterMap Addition.asGeoItem? = [] := by
    rw [List.filterMap_map, List.filterMap_eq_nil_iff]
    exact fun _ _ => rfl
  rw [ReferenceData.geoItems_ofAdditions, noItems]
  rfl

/-- Tables with different keys are all added. -/
theorem addAll_tables_of_nodup (nodup : (document.tables.map FlightTable.key).Nodup) :
    addAll ReferenceData.exchangeTable (.duplicateTable ·.key) {} document.tables =
      .ok (ReferenceData.ofAdditions (document.tables.map .table)) := by
  rw [keepsKeys_exchangeTable.addAll_of_nodup _ nodup fun _ _ => List.not_mem_nil,
    ReferenceData.ofAdditions, List.foldl_map]
  rfl

/-- Where no key occurs twice, the data are those of all additions of the document. -/
theorem load_of_nodup
    (tablesNodup : (document.tables.map FlightTable.key).Nodup)
    (itemsNodup : (document.geoItems.map GeoItem.key).Nodup) :
    document.load = .ok (ReferenceData.ofAdditions document.additions) := by
  have noItems : ∀ item ∈ document.geoItems, item.key ∉
      (ReferenceData.ofAdditions (document.tables.map .table)).geoItems.keys := by
    intro item _
    rw [geoItems_of_tables]
    exact List.not_mem_nil
  rw [load, addAll_tables_of_nodup tablesNodup]
  change (addAll _ _ _ document.geoItems >>= _) = _
  rw [keepsKeys_exchangeGeoItem.addAll_of_nodup _ itemsNodup noItems]
  simp only [ReferenceData.ofAdditions, additions, List.foldl_append, List.foldl_map,
    List.foldl_flatMap]
  rfl

/-- The first table whose key is repeated is the error. -/
theorem load_of_table_repeated
    {key : ItemKey}
    (repeats : FirstRepeat (document.tables.map FlightTable.key) key) :
    document.load = .error (.duplicateTable key) := by
  rw [load, keepsKeys_exchangeTable.addAll_of_firstRepeat .duplicateTable rfl repeats]
  rfl

/-- The first item whose key is repeated is the error, if no table comes before. -/
theorem load_of_geoItem_repeated
    {key : ItemKey}
    (tablesNodup : (document.tables.map FlightTable.key).Nodup)
    (repeats : FirstRepeat (document.geoItems.map GeoItem.key) key) :
    document.load = .error (.duplicateGeoItem key) := by
  have noItems :
      (ReferenceData.ofAdditions (document.tables.map .table)).geoItems.keys = [] := by
    rw [geoItems_of_tables]
    rfl
  rw [load, addAll_tables_of_nodup tablesNodup]
  change (addAll _ _ _ document.geoItems >>= _) = _
  rw [keepsKeys_exchangeGeoItem.addAll_of_firstRepeat .duplicateGeoItem noItems repeats]
  rfl

/-- A document is loaded, or it repeats the key of a table or else that of a geographic item. -/
theorem load_cases (document : ReferenceDocument) :
    let tableKeys := document.tables.map FlightTable.key
    let itemKeys := document.geoItems.map GeoItem.key
    (tableKeys.Nodup ∧ itemKeys.Nodup ∧
        document.load = .ok (ReferenceData.ofAdditions document.additions)) ∨
      (∃ key, FirstRepeat tableKeys key ∧ document.load = .error (.duplicateTable key)) ∨
      (tableKeys.Nodup ∧
        ∃ key, FirstRepeat itemKeys key ∧ document.load = .error (.duplicateGeoItem key)) := by
  intro tableKeys itemKeys
  by_cases tablesNodup : tableKeys.Nodup
  · by_cases itemsNodup : itemKeys.Nodup
    · exact .inl ⟨tablesNodup, itemsNodup, load_of_nodup tablesNodup itemsNodup⟩
    · obtain ⟨key, repeats⟩ := exists_firstRepeat itemsNodup
      exact .inr (.inr
        ⟨tablesNodup, key, repeats, load_of_geoItem_repeated tablesNodup repeats⟩)
  · obtain ⟨key, repeats⟩ := exists_firstRepeat tablesNodup
    exact .inr (.inl ⟨key, repeats, load_of_table_repeated repeats⟩)

/-- A document is loaded exactly when no key of a table or an item is repeated. -/
theorem exists_load_iff :
    (∃ data, document.load = .ok data) ↔
      (document.tables.map FlightTable.key).Nodup ∧ (document.geoItems.map GeoItem.key).Nodup := by
  constructor
  · rintro ⟨data, loaded⟩
    obtain ⟨tablesNodup, itemsNodup, _⟩ | ⟨key, _, failed⟩ | ⟨_, key, _, failed⟩ :=
      document.load_cases
    · exact ⟨tablesNodup, itemsNodup⟩
    · cases loaded.symm.trans failed
    · cases loaded.symm.trans failed
  · rintro ⟨tablesNodup, itemsNodup⟩
    exact ⟨_, load_of_nodup tablesNodup itemsNodup⟩

/-- A document that is not loaded has the first repeated key as its error, tables first. -/
theorem load_eq_error_iff {error : ReferenceError} :
    document.load = .error error ↔
      (∃ key, FirstRepeat (document.tables.map FlightTable.key) key ∧
          error = .duplicateTable key) ∨
        ((document.tables.map FlightTable.key).Nodup ∧
          ∃ key, FirstRepeat (document.geoItems.map GeoItem.key) key ∧
            error = .duplicateGeoItem key) := by
  constructor
  · intro failed
    obtain ⟨_, _, loaded⟩ | ⟨key, repeats, failedSo⟩ | ⟨tablesNodup, key, repeats, failedSo⟩ :=
      document.load_cases
    · cases failed.symm.trans loaded
    · cases failed.symm.trans failedSo
      exact .inl ⟨key, repeats, rfl⟩
    · cases failed.symm.trans failedSo
      exact .inr ⟨tablesNodup, key, repeats, rfl⟩
  · rintro (⟨key, repeats, rfl⟩ | ⟨tablesNodup, key, repeats, rfl⟩)
    · exact load_of_table_repeated repeats
    · exact load_of_geoItem_repeated tablesNodup repeats

/-! ## What a document adds to each part -/

theorem tableEntries_additions (document : ReferenceDocument) :
    document.additions.filterMap Addition.asTable? =
      document.tables.map fun table => (table.key, table) := by
  simp [additions, List.filterMap_flatMap, List.filterMap_map, Function.comp_def,
    Addition.asTable?]

theorem nodup_keys_tableEntries (nodup : (document.tables.map FlightTable.key).Nodup) :
    ((document.additions.filterMap Addition.asTable?).map Prod.fst).Nodup := by
  rw [tableEntries_additions, List.map_map]
  exact nodup

theorem geoItemEntries_additions (document : ReferenceDocument) :
    document.additions.filterMap Addition.asGeoItem? =
      document.geoItems.map fun item => (item.key, item) := by
  simp [additions, List.filterMap_flatMap, List.filterMap_map, Function.comp_def,
    Addition.asGeoItem?]

theorem nodup_keys_geoItemEntries (nodup : (document.geoItems.map GeoItem.key).Nodup) :
    ((document.additions.filterMap Addition.asGeoItem?).map Prod.fst).Nodup := by
  rw [geoItemEntries_additions, List.map_map]
  exact nodup

theorem tripStructureEntries_additions (document : ReferenceDocument) :
    document.additions.filterMap Addition.asTripStructure? =
      document.tripStructures.entries := by
  simp [additions, List.filterMap_flatMap, List.filterMap_map, Function.comp_def,
    Addition.asTripStructure?]

theorem allianceMember_mem_additions {member alliance : String} :
    .allianceMember member alliance ∈ document.additions ↔
      ∃ alliances, document.alliances.find? member = some alliances ∧
        alliance ∈ alliances.toList := by
  have found_iff (alliances : OrderedSet String) :
      document.alliances.find? member = some alliances ↔
        (member, alliances) ∈ document.alliances.entries :=
    Ordered.lookup_eq_some_iff_mem document.alliances.nodup_keys
  simp [additions, found_iff]

end ReferenceDocument

/--
A document is loaded exactly when no key occurs twice among its tables and none among its geographic
items.  Else the error is the first table whose key occurred before, or where there is none, the
first such item.  What is loaded has as many tables and items as the document lists, finds what the
document lists under a key and nothing else, and gives a carrier the upper-case forms of all
alliances that the document lists under codes with the same upper-case form.
-/
theorem load_of_document (document : ReferenceDocument) :
    let tableKeys := document.tables.map FlightTable.key
    let itemKeys := document.geoItems.map GeoItem.key
    ((∃ data, document.load = .ok data) ↔ tableKeys.Nodup ∧ itemKeys.Nodup) ∧
    (∀ error, document.load = .error error ↔
      (∃ key, FirstRepeat tableKeys key ∧ error = .duplicateTable key) ∨
        (tableKeys.Nodup ∧ ∃ key, FirstRepeat itemKeys key ∧ error = .duplicateGeoItem key)) ∧
    ∀ data, document.load = .ok data →
      (data.tableCount = document.tables.length ∧
        data.geoItemCount = document.geoItems.length) ∧
      (∀ vendor itemNo table, data.table? vendor itemNo = some table ↔
        table ∈ document.tables ∧ table.vendor = vendor ∧ table.itemNo = itemNo) ∧
      (∀ vendor itemNo item, data.geoItem? vendor itemNo = some item ↔
        item ∈ document.geoItems ∧ item.vendor = vendor ∧ item.itemNo = itemNo) ∧
      (∀ number, data.tripStructure? number = document.tripStructures.find? number) ∧
      ∀ carrier name, name ∈ (data.alliancesOf carrier).toList ↔
        ∃ member alliances, document.alliances.find? member = some alliances ∧
          Text.upper member = Text.upper carrier ∧
          ∃ alliance ∈ alliances.toList, Text.upper alliance = name := by
  intro tableKeys itemKeys
  refine ⟨ReferenceDocument.exists_load_iff, fun _ => ReferenceDocument.load_eq_error_iff, ?_⟩
  intro data loaded
  obtain ⟨tablesNodup, itemsNodup⟩ := ReferenceDocument.exists_load_iff.1 ⟨data, loaded⟩
  obtain rfl : ReferenceData.ofAdditions document.additions = data :=
    Except.ok.inj ((ReferenceDocument.load_of_nodup tablesNodup itemsNodup).symm.trans loaded)
  have tableEntriesNodup := ReferenceDocument.nodup_keys_tableEntries tablesNodup
  have itemEntriesNodup := ReferenceDocument.nodup_keys_geoItemEntries itemsNodup
  refine ⟨⟨?_, ?_⟩, ?_, ?_, ?_, ?_⟩
  · rw [ReferenceData.tableCount, ReferenceData.tables_ofAdditions, OrderedMap.size_ofList,
      List.toFinset_card_of_nodup tableEntriesNodup, ReferenceDocument.tableEntries_additions,
      List.length_map, List.length_map]
  · rw [ReferenceData.geoItemCount, ReferenceData.geoItems_ofAdditions, OrderedMap.size_ofList,
      List.toFinset_card_of_nodup itemEntriesNodup, ReferenceDocument.geoItemEntries_additions,
      List.length_map, List.length_map]
  · intro vendor itemNo table
    rw [ReferenceData.table?_ofAdditions, Ordered.latest?_eq_some_iff tableEntriesNodup,
      ReferenceDocument.tableEntries_additions]
    simp [FlightTable.key, and_comm]
  · intro vendor itemNo item
    rw [ReferenceData.geoItem?_ofAdditions, Ordered.latest?_eq_some_iff itemEntriesNodup,
      ReferenceDocument.geoItemEntries_additions]
    simp [GeoItem.key, and_comm]
  · intro number
    rw [ReferenceData.tripStructure?_ofAdditions,
      ReferenceDocument.tripStructureEntries_additions,
      Ordered.latest?_of_nodup document.tripStructures.nodup_keys]
    rfl
  · intro carrier name
    rw [ReferenceData.mem_alliancesOf_ofAdditions]
    simp only [ReferenceDocument.allianceMember_mem_additions]
    constructor
    · rintro ⟨member, alliance, ⟨alliances, found, listed⟩, alike, upper_eq⟩
      exact ⟨member, alliances, found, alike, alliance, listed, upper_eq⟩
    · rintro ⟨member, alliances, found, alike, alliance, listed, upper_eq⟩
      exact ⟨member, alliance, ⟨alliances, found, listed⟩, alike, upper_eq⟩

/-- A document that lists the alliances of one carrier under two writings of its code. -/
def twoWritings : ReferenceDocument where
  tables := [⟨"ATP", 1, []⟩, ⟨"ATP", 2, []⟩]
  geoItems := [⟨"ATP", 1, .airport "JFK", 0⟩]
  alliances := .ofList [("DL", .ofList ["SkyTeam"]), ("dl", .ofList ["oneworld"])]

/-- The document with its tables listed in both orders. -/
def repeatedTables : ReferenceDocument :=
  { twoWritings with tables := twoWritings.tables ++ twoWritings.tables.reverse }

/-- The alliances under both writings are joined; the first table that is repeated is refused. -/
theorem load_of_two_writings :
    (∃ data, twoWritings.load = .ok data ∧ data.tableCount = 2 ∧
      data.table? "ATP" 2 = some ⟨"ATP", 2, []⟩ ∧
      "SKYTEAM" ∈ (data.alliancesOf "Dl").toList ∧ "ONEWORLD" ∈ (data.alliancesOf "Dl").toList) ∧
    repeatedTables.load = .error (.duplicateTable ⟨"ATP", 2⟩) := by
  constructor
  · obtain ⟨data, loaded⟩ := (load_of_document twoWritings).1.2 ⟨by decide, by decide⟩
    obtain ⟨⟨tableCount, _⟩, table, _, _, alliances⟩ :=
      (load_of_document twoWritings).2.2 data loaded
    refine ⟨data, loaded, tableCount, (table _ _ _).2 ⟨by decide, rfl, rfl⟩, ?_, ?_⟩
    · exact (alliances _ _).2
        ⟨"DL", .ofList ["SkyTeam"], by decide, by decide, "SkyTeam", by decide, by decide⟩
    · exact (alliances _ _).2
        ⟨"dl", .ofList ["oneworld"], by decide, by decide, "oneworld", by decide, by decide⟩
  · refine ((load_of_document repeatedTables).2.1 _).2 (.inl ⟨⟨"ATP", 2⟩, ?_, rfl⟩)
    exact ⟨[⟨"ATP", 1⟩, ⟨"ATP", 2⟩], [⟨"ATP", 1⟩], rfl, by decide, by decide⟩

end FlightRule
