import FlightRule.Context
import FlightRule.Ordered.Map
import FlightRule.Text.Upper

/-!
# Reference data

In memory, flight tables and geographic items are kept under their vendor and number, trip
structures under their number, and the alliances of a carrier under its upper-case code.

A reference document lists reference data as they are exchanged.  Loading it fails when two tables
or two geographic items have the same vendor and number.
-/

namespace FlightRule

/-! ## Data in memory -/

/-- The vendor and number that a table or geographic item is known by. -/
structure ItemKey where
  vendor : String
  itemNo : UInt32
deriving DecidableEq, Repr

namespace ItemKey

instance : Ord ItemKey where
  compare left right := (compare left.vendor right.vendor).then (compare left.itemNo right.itemNo)

theorem compare_def (left right : ItemKey) :
    compare left right =
      (compare left.vendor right.vendor).then (compare left.itemNo right.itemNo) :=
  rfl

instance : Std.LawfulEqOrd ItemKey where
  compare_self := by simp [compare_def, Std.ReflCmp.compare_self]
  eq_of_compare := by
    intro left right equal
    rw [compare_def, Ordering.then_eq_eq] at equal
    cases left
    cases right
    rw [ItemKey.mk.injEq]
    exact ⟨Std.LawfulEqOrd.eq_of_compare equal.1, Std.LawfulEqOrd.eq_of_compare equal.2⟩

instance : Std.TransOrd ItemKey where
  eq_swap := by
    intro left right
    rw [compare_def, compare_def, Ordering.swap_then, ← Std.OrientedCmp.eq_swap,
      ← Std.OrientedCmp.eq_swap]
  isLE_trans := by
    intro first second third
    simp only [compare_def, Ordering.isLE_then_iff_or]
    rintro (firstBelow | ⟨firstSame, firstLe⟩) (secondBelow | ⟨secondSame, secondLe⟩)
    · exact .inl (Std.TransCmp.lt_trans firstBelow secondBelow)
    · exact .inl (Std.TransCmp.lt_of_lt_of_eq firstBelow secondSame)
    · exact .inl (Std.TransCmp.lt_of_eq_of_lt firstSame secondBelow)
    · exact .inr ⟨Std.TransCmp.eq_trans firstSame secondSame,
        Std.TransCmp.isLE_trans firstLe secondLe⟩

end ItemKey

/-- The key of a flight table. -/
def FlightTable.key (table : FlightTable) : ItemKey := ⟨table.vendor, table.itemNo⟩

/-- The key of a geographic item. -/
def GeoItem.key (item : GeoItem) : ItemKey := ⟨item.vendor, item.itemNo⟩

/-- Reference data in memory. -/
structure ReferenceData where
  tables : OrderedMap ItemKey FlightTable := .empty
  geoItems : OrderedMap ItemKey GeoItem := .empty
  tripStructures : OrderedMap UInt32 Boundary := .empty
  /-- The upper-case alliances of each carrier, under its upper-case code. -/
  alliances : OrderedMap String (OrderedSet String) := .empty

instance : Inhabited ReferenceData := ⟨{}⟩

namespace ReferenceData

/-- The flight table of a vendor with a number. -/
def table? (data : ReferenceData) (vendor : String) (itemNo : UInt32) : Option FlightTable :=
  data.tables.find? ⟨vendor, itemNo⟩

/-- The geographic item of a vendor with a number. -/
def geoItem? (data : ReferenceData) (vendor : String) (itemNo : UInt32) : Option GeoItem :=
  data.geoItems.find? ⟨vendor, itemNo⟩

/-- The boundary of a trip structure. -/
def tripStructure? (data : ReferenceData) (number : UInt32) : Option Boundary :=
  data.tripStructures.find? number

/-- The alliances of a carrier, in whatever case its code is written. -/
def alliancesOf (data : ReferenceData) (carrier : String) : OrderedSet String :=
  (data.alliances.find? (Text.upper carrier)).getD .empty

/-- Keep a table under its key, and give back the table that was there before. -/
def exchangeTable (data : ReferenceData) (table : FlightTable) :
    Option FlightTable × ReferenceData :=
  let exchanged := data.tables.exchange table.key table
  (exchanged.1, { data with tables := exchanged.2 })

/-- Keep a geographic item under its key, and give back the item that was there before. -/
def exchangeGeoItem (data : ReferenceData) (item : GeoItem) : Option GeoItem × ReferenceData :=
  let exchanged := data.geoItems.exchange item.key item
  (exchanged.1, { data with geoItems := exchanged.2 })

/-- Keep a table under its key, in place of a table that was there. -/
def addTable (data : ReferenceData) (table : FlightTable) : ReferenceData :=
  (data.exchangeTable table).2

/-- Keep a geographic item under its key, in place of an item that was there. -/
def addGeoItem (data : ReferenceData) (item : GeoItem) : ReferenceData :=
  (data.exchangeGeoItem item).2

/-- Keep the boundary of a trip structure, in place of one that was there. -/
def addTripStructure (data : ReferenceData) (number : UInt32) (boundary : Boundary) :
    ReferenceData :=
  { data with tripStructures := data.tripStructures.insert number boundary }

/-- Add an alliance to those of a carrier. -/
def addAllianceMember (data : ReferenceData) (carrier alliance : String) : ReferenceData :=
  { data with
    alliances := data.alliances.insert (Text.upper carrier)
      ((data.alliancesOf carrier).insert (Text.upper alliance)) }

theorem exchangeTable_fst (data : ReferenceData) (table : FlightTable) :
    (data.exchangeTable table).1 = data.table? table.vendor table.itemNo := by
  rw [exchangeTable, OrderedMap.exchange_eq]
  rfl

theorem exchangeGeoItem_fst (data : ReferenceData) (item : GeoItem) :
    (data.exchangeGeoItem item).1 = data.geoItem? item.vendor item.itemNo := by
  rw [exchangeGeoItem, OrderedMap.exchange_eq]
  rfl

theorem addTable_eq (data : ReferenceData) (table : FlightTable) :
    data.addTable table = { data with tables := data.tables.insert table.key table } := by
  rw [addTable, exchangeTable, OrderedMap.exchange_eq]

theorem addGeoItem_eq (data : ReferenceData) (item : GeoItem) :
    data.addGeoItem item = { data with geoItems := data.geoItems.insert item.key item } := by
  rw [addGeoItem, exchangeGeoItem, OrderedMap.exchange_eq]

/-- The number of flight tables. -/
def tableCount (data : ReferenceData) : Nat := data.tables.size

/-- The number of geographic items. -/
def geoItemCount (data : ReferenceData) : Nat := data.geoItems.size

/-- The data as a source of geographic items. -/
def geography (data : ReferenceData) : GeoSource :=
  ⟨data.geoItem?, data.tripStructure?⟩

end ReferenceData

/-- A context that finds all reference data in one place. -/
def Context.ofData (data : ReferenceData) : Context where
  tables := data.table?
  geography := data.geography
  alliances := data.alliancesOf

/-! ## Documents -/

/-- Reference data as they are exchanged. -/
structure ReferenceDocument where
  tables : List FlightTable := []
  geoItems : List GeoItem := []
  tripStructures : OrderedMap UInt32 Boundary := .empty
  /-- The alliances of each carrier. -/
  alliances : OrderedMap String (OrderedSet String) := .empty

instance : Inhabited ReferenceDocument := ⟨{}⟩

/-- Why reference data cannot be loaded. -/
inductive ReferenceError where
  /-- The text is not a reference document. -/
  | malformed
  /-- Two flight tables have this key. -/
  | duplicateTable (key : ItemKey)
  /-- Two geographic items have this key. -/
  | duplicateGeoItem (key : ItemKey)
deriving DecidableEq, Repr

namespace ReferenceDocument

/-- Add items one after the other, until one takes the place of another. -/
def addAll
    {α : Type}
    (exchange : ReferenceData → α → Option α × ReferenceData)
    (duplicate : α → ReferenceError) :
    ReferenceData → List α → Except ReferenceError ReferenceData
  | data, [] => .ok data
  | data, item :: items =>
    match exchange data item with
    | (none, extended) => addAll exchange duplicate extended items
    | (some _, _) => .error (duplicate item)

/-- The reference data that a document lists. -/
def load (document : ReferenceDocument) : Except ReferenceError ReferenceData := do
  let withTables ←
    addAll ReferenceData.exchangeTable (.duplicateTable ·.key) {} document.tables
  let withItems ←
    addAll ReferenceData.exchangeGeoItem (.duplicateGeoItem ·.key) withTables document.geoItems
  let withStructures := document.tripStructures.entries.foldl
    (fun data (number, boundary) => data.addTripStructure number boundary) withItems
  return document.alliances.entries.foldl
    (fun data (carrier, alliances) =>
      alliances.toList.foldl (fun data alliance => data.addAllianceMember carrier alliance) data)
    withStructures

end ReferenceDocument

end FlightRule
