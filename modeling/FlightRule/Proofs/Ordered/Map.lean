import FlightRule.Ordered.Map
import Mathlib.Data.Finset.Card

/-!
# Maps of listed entries

When entries are put into a map one after the other, each key finds the value of its last entry
(`OrderedMap.find?_ofList`), and there are as many keys as the entries have different ones
(`OrderedMap.size_ofList`).  Where no key occurs twice, this loses nothing: a key finds a value
exactly when they are listed together (`Ordered.latest?_eq_some_iff`).
-/

namespace FlightRule

namespace Ordered

variable {κ α : Type} [BEq κ] {entries : List (κ × α)} {key : κ} {value : α}

/-- The value of the last entry that has a key, if one has. -/
def latest? (entries : List (κ × α)) (key : κ) : Option α :=
  entries.reverse.lookup key

variable [LawfulBEq κ]

theorem lookup_eq_some_iff_mem (nodup : (entries.map Prod.fst).Nodup) :
    entries.lookup key = some value ↔ (key, value) ∈ entries := by
  induction entries with
  | nil => simp
  | cons entry tail inductionHypothesis =>
      obtain ⟨head, found⟩ := entry
      obtain ⟨notInTail, tailNodup⟩ := List.nodup_cons.1 nodup
      rw [List.lookup_cons]
      by_cases atHead : key = head
      · subst atHead
        have notListed : (key, value) ∉ tail := fun member =>
          notInTail (List.mem_map.2 ⟨_, member, rfl⟩)
        simp [notListed, eq_comm]
      · simp [beq_eq_false_iff_ne.2 atHead, atHead, inductionHypothesis tailNodup]

/-- Where no key occurs twice, the last value of a key is the one that is listed with it. -/
theorem latest?_eq_some_iff (nodup : (entries.map Prod.fst).Nodup) :
    latest? entries key = some value ↔ (key, value) ∈ entries := by
  have reverseNodup : (entries.reverse.map Prod.fst).Nodup := by
    rw [List.map_reverse, List.nodup_reverse]
    exact nodup
  rw [latest?, lookup_eq_some_iff_mem reverseNodup, List.mem_reverse]

/-- Where no key occurs twice, its last entry is its first one. -/
theorem latest?_of_nodup (nodup : (entries.map Prod.fst).Nodup) :
    latest? entries key = entries.lookup key := by
  apply Option.ext
  intro value
  rw [latest?_eq_some_iff nodup, lookup_eq_some_iff_mem nodup]

theorem mem_of_latest? (found : latest? entries key = some value) : (key, value) ∈ entries := by
  obtain ⟨before, after, split, _⟩ := List.lookup_eq_some_iff.1 found
  rw [← List.mem_reverse, split]
  simp

end Ordered

namespace Ordered

variable {κ α : Type} [Ord κ] [Std.OrientedOrd κ]

/-- A key above all others gets the last place. -/
theorem insertEntry_of_above
    {entries : List (κ × α)}
    {key : κ}
    (value : α)
    (above : ∀ other ∈ entries.map Prod.fst, compare other key = .lt) :
    insertEntry key value entries = entries ++ [(key, value)] := by
  induction entries with
  | nil => rfl
  | cons entry entries inductionHypothesis =>
      obtain ⟨headBelow, restBelow⟩ := List.forall_mem_cons.1 above
      rw [insertEntry, Std.OrientedCmp.gt_of_lt headBelow, inductionHypothesis restBelow,
        List.cons_append]

end Ordered

namespace Ordered.Ascending

variable {κ : Type} [Ord κ] [Std.ReflOrd κ] {keys : List κ}

/-- Increasing keys are different. -/
theorem nodup (ascending : Ascending keys) : keys.Nodup := by
  refine ascending.imp ?_
  rintro first second below rfl
  simp [Std.ReflCmp.compare_self] at below

end Ordered.Ascending

namespace OrderedMap

variable {κ α : Type} [Ord κ]

/-- The keys of a map are those that find a value. -/
theorem mem_keys_iff_isSome [BEq κ] [LawfulBEq κ] {map : OrderedMap κ α} {key : κ} :
    key ∈ map.keys ↔ (map.find? key).isSome = true := by
  rw [find?, keys, List.lookup_isSome_iff]
  simp

variable [Std.LawfulEqOrd κ]

theorem nodup_keys (map : OrderedMap κ α) : map.keys.Nodup :=
  map.ascending.nodup

variable [Std.TransOrd κ]

theorem mem_keys_foldl_insert {key : κ} (entries : List (κ × α)) (map : OrderedMap κ α) :
    key ∈ (entries.foldl (fun map (key, value) => map.insert key value) map).keys ↔
      key ∈ entries.map Prod.fst ∨ key ∈ map.keys := by
  induction entries generalizing map with
  | nil => simp
  | cons entry entries inductionHypothesis =>
      rw [List.foldl_cons, inductionHypothesis, mem_keys_insert, List.map_cons, List.mem_cons]
      tauto

theorem mem_keys_ofList {key : κ} {entries : List (κ × α)} :
    key ∈ (ofList entries).keys ↔ key ∈ entries.map Prod.fst := by
  rw [ofList, mem_keys_foldl_insert]
  simp [keys, empty]

/-- A map of listed entries has as many keys as the entries have different ones. -/
theorem size_ofList [DecidableEq κ] (entries : List (κ × α)) :
    (ofList entries).size = (entries.map Prod.fst).toFinset.card := by
  have sameKeys : (entries.map Prod.fst).toFinset = (ofList entries).keys.toFinset := by
    ext key
    rw [List.mem_toFinset, List.mem_toFinset, mem_keys_ofList]
  rw [sameKeys, List.toFinset_card_of_nodup (nodup_keys _), keys, List.length_map, size]

/-- Entries that go on increasingly behind those of a map are put at its end. -/
theorem entries_foldl_insert
    (entries : List (κ × α))
    (map : OrderedMap κ α)
    (ascending : Ordered.Ascending ((map.entries ++ entries).map Prod.fst)) :
    (entries.foldl (fun map (key, value) => map.insert key value) map).entries =
      map.entries ++ entries := by
  induction entries generalizing map with
  | nil => simp
  | cons entry entries inductionHypothesis =>
      have above : ∀ other ∈ map.entries.map Prod.fst, compare other entry.1 = .lt := by
        rw [List.map_append, Ordered.Ascending, List.pairwise_append] at ascending
        exact fun other member => ascending.2.2 other member entry.1 List.mem_cons_self
      have inserted : (map.insert entry.1 entry.2).entries = map.entries ++ [entry] :=
        Ordered.insertEntry_of_above entry.2 above
      have regrouped : (map.entries ++ [entry]) ++ entries = map.entries ++ entry :: entries := by
        simp
      rw [List.foldl_cons, inductionHypothesis, inserted, regrouped]
      rw [inserted, regrouped]
      exact ascending

/-- A map is the map of its own entries. -/
@[simp] theorem ofList_entries (map : OrderedMap κ α) : ofList map.entries = map := by
  have sameEntries : (ofList map.entries).entries = map.entries :=
    entries_foldl_insert map.entries empty map.ascending
  cases map
  exact (OrderedMap.mk.injEq ..).mpr sameEntries

variable [BEq κ] [LawfulBEq κ]

/-- What is inserted last is found, and else what was there. -/
theorem find?_foldl_insert (entries : List (κ × α)) (map : OrderedMap κ α) (key : κ) :
    (entries.foldl (fun map (key, value) => map.insert key value) map).find? key =
      (Ordered.latest? entries key).or (map.find? key) := by
  induction entries generalizing map with
  | nil => rfl
  | cons entry entries inductionHypothesis =>
      obtain ⟨head, value⟩ := entry
      rw [List.foldl_cons, inductionHypothesis, find?_insert, Ordered.latest?, Ordered.latest?,
        List.reverse_cons, List.lookup_append, List.lookup_cons, List.lookup_nil, Option.or_assoc]
      cases key == head <;> rfl

/-- In a map of listed entries each key finds the value of its last entry. -/
theorem find?_ofList (entries : List (κ × α)) (key : κ) :
    (ofList entries).find? key = Ordered.latest? entries key := by
  rw [ofList, find?_foldl_insert, find?_empty, Option.or_none]

end OrderedMap

end FlightRule
