import FlightRule.Ordered.Set

/-!
# Finite ordered maps

A map is the list of its keys with their values, the keys increasing.  The main statements are
`find?_insert`, which says what every key finds after an insertion, and `exchange_eq`, which says
that an exchange inserts a value and gives back the one that the key had.
-/

namespace FlightRule

namespace Ordered

variable {κ α : Type} [Ord κ]

/-- Set the value of a key among entries with increasing keys. -/
def insertEntry (key : κ) (value : α) : List (κ × α) → List (κ × α)
  | [] => [(key, value)]
  | (head, found) :: tail =>
    match compare key head with
    | .lt => (key, value) :: (head, found) :: tail
    | .eq => (key, value) :: tail
    | .gt => (head, found) :: insertEntry key value tail

/-- Set the value of a key among entries with increasing keys, and give back the value it had. -/
def exchangeEntry (key : κ) (value : α) : List (κ × α) → Option α × List (κ × α)
  | [] => (none, [(key, value)])
  | (head, found) :: tail =>
    match compare key head with
    | .lt => (none, (key, value) :: (head, found) :: tail)
    | .eq => (some found, (key, value) :: tail)
    | .gt =>
      let (replaced, rest) := exchangeEntry key value tail
      (replaced, (head, found) :: rest)

theorem exchangeEntry_snd (key : κ) (value : α) (entries : List (κ × α)) :
    (exchangeEntry key value entries).2 = insertEntry key value entries := by
  induction entries with
  | nil => rfl
  | cons entry tail inductionHypothesis =>
    rw [exchangeEntry, insertEntry]
    split
    next => rfl
    next => rfl
    next => exact congrArg _ inductionHypothesis

variable [Std.LawfulEqOrd κ]

theorem mem_keys_insertEntry {key other : κ} {value : α} {entries : List (κ × α)} :
    other ∈ (insertEntry key value entries).map Prod.fst ↔
      other = key ∨ other ∈ entries.map Prod.fst := by
  induction entries with
  | nil => simp [insertEntry]
  | cons entry tail inductionHypothesis =>
    obtain ⟨head, found⟩ := entry
    rw [insertEntry]
    split
    next => simp
    next equal =>
      rw [Std.LawfulEqOrd.eq_of_compare equal]
      simp
    next =>
      simp only [List.map_cons, List.mem_cons, inductionHypothesis]
      exact or_left_comm

variable [Std.TransOrd κ]

theorem ascending_insertEntry
    (key : κ)
    (value : α)
    {entries : List (κ × α)}
    (ascending : Ascending (entries.map Prod.fst)) :
    Ascending ((insertEntry key value entries).map Prod.fst) := by
  induction entries with
  | nil => simp [insertEntry, Ascending]
  | cons entry tail inductionHypothesis =>
    obtain ⟨head, found⟩ := entry
    obtain ⟨headBelow, tailAscending⟩ := List.pairwise_cons.1 ascending
    rw [insertEntry]
    split
    next below =>
      refine List.pairwise_cons.2 ⟨fun other member => ?_, ascending⟩
      rcases List.mem_cons.1 member with rfl | member
      · exact below
      · exact Std.TransCmp.lt_trans below (headBelow other member)
    next equal =>
      rw [Std.LawfulEqOrd.eq_of_compare equal]
      exact ascending
    next above =>
      refine List.pairwise_cons.2
        ⟨fun other member => ?_, inductionHypothesis tailAscending⟩
      rcases mem_keys_insertEntry.1 member with rfl | member
      · exact Std.OrientedCmp.lt_of_gt above
      · exact headBelow other member

theorem ascending_exchangeEntry
    (key : κ)
    (value : α)
    {entries : List (κ × α)}
    (ascending : Ascending (entries.map Prod.fst)) :
    Ascending ((exchangeEntry key value entries).2.map Prod.fst) := by
  rw [exchangeEntry_snd]
  exact ascending_insertEntry key value ascending

/-- Among increasing keys, none that stands above a key is equal to it. -/
theorem exchangeEntry_fst
    [BEq κ]
    [LawfulBEq κ]
    (key : κ)
    (value : α)
    {entries : List (κ × α)}
    (ascending : Ascending (entries.map Prod.fst)) :
    (exchangeEntry key value entries).1 = entries.lookup key := by
  induction entries with
  | nil => rfl
  | cons entry tail inductionHypothesis =>
    obtain ⟨head, found⟩ := entry
    obtain ⟨headBelow, tailAscending⟩ := List.pairwise_cons.1 ascending
    rw [exchangeEntry]
    split
    next below =>
      refine (List.lookup_eq_none_iff.2 fun entry member => ?_).symm
      have keyBelow : compare key entry.1 = .lt := by
        rcases List.mem_cons.1 member with rfl | member
        · exact below
        · exact Std.TransCmp.lt_trans below (headBelow _ (List.mem_map_of_mem member))
      rw [bne_iff_ne]
      rintro rfl
      simp [Std.ReflCmp.compare_self] at keyBelow
    next equal =>
      rw [Std.LawfulEqOrd.eq_of_compare equal, List.lookup_cons_self]
    next above =>
      have notHead : (key == head) = false := by
        rw [beq_eq_false_iff_ne]
        rintro rfl
        simp [Std.ReflCmp.compare_self] at above
      rw [List.lookup_cons, notHead]
      exact inductionHypothesis tailAscending

end Ordered

/-- A finite map, held as its entries in increasing order of the keys. -/
structure OrderedMap (κ α : Type) [Ord κ] where
  /-- The keys with their values. -/
  entries : List (κ × α)
  /-- Each key occurs once and the keys increase. -/
  ascending : Ordered.Ascending (entries.map Prod.fst)

namespace OrderedMap

variable {κ α : Type} [Ord κ]

instance [DecidableEq κ] [DecidableEq α] : DecidableEq (OrderedMap κ α) := fun left right =>
  if equal : left.entries = right.entries then
    isTrue (by cases left; cases right; simp_all)
  else
    isFalse fun same => equal (congrArg entries same)

/-- The map without entries. -/
def empty : OrderedMap κ α := ⟨[], Ordered.ascending_nil⟩

instance : Inhabited (OrderedMap κ α) := ⟨empty⟩

/-- The number of keys. -/
def size (map : OrderedMap κ α) : Nat := map.entries.length

/-- The keys in increasing order. -/
def keys (map : OrderedMap κ α) : List κ := map.entries.map Prod.fst

/-- The value of a key. -/
def find? [BEq κ] (map : OrderedMap κ α) (key : κ) : Option α :=
  map.entries.lookup key

@[simp] theorem find?_empty [BEq κ] (key : κ) : (empty : OrderedMap κ α).find? key = none := rfl

variable [Std.TransOrd κ] [Std.LawfulEqOrd κ]

/-- Set the value of a key; the value it had before is gone. -/
def insert (map : OrderedMap κ α) (key : κ) (value : α) : OrderedMap κ α :=
  ⟨Ordered.insertEntry key value map.entries, Ordered.ascending_insertEntry key value map.ascending⟩

/-- Set the value of a key, and give back the value it had before. -/
def exchange (map : OrderedMap κ α) (key : κ) (value : α) : Option α × OrderedMap κ α :=
  let exchanged := Ordered.exchangeEntry key value map.entries
  (exchanged.1, ⟨exchanged.2, Ordered.ascending_exchangeEntry key value map.ascending⟩)

/-- The map that holds each listed entry; of two entries with one key the later stays. -/
def ofList (entries : List (κ × α)) : OrderedMap κ α :=
  entries.foldl (fun map (key, value) => map.insert key value) empty

@[simp] theorem mem_keys_insert {map : OrderedMap κ α} {key other : κ} {value : α} :
    other ∈ (map.insert key value).keys ↔ other = key ∨ other ∈ map.keys :=
  Ordered.mem_keys_insertEntry

variable [BEq κ] [LawfulBEq κ]

/-- After an insertion the key finds the new value and every other key what it found before. -/
theorem find?_insert (map : OrderedMap κ α) (key other : κ) (value : α) :
    (map.insert key value).find? other =
      if other == key then some value else map.find? other := by
  obtain ⟨entries, ascending⟩ := map
  simp only [find?, insert]
  induction entries with
  | nil =>
    rw [Ordered.insertEntry, List.lookup_cons, List.lookup_nil]
    cases other == key <;> rfl
  | cons entry tail inductionHypothesis =>
    obtain ⟨head, found⟩ := entry
    rw [Ordered.insertEntry]
    split
    next =>
      rw [List.lookup_cons]
      cases other == key <;> rfl
    next equal =>
      rw [← Std.LawfulEqOrd.eq_of_compare equal, List.lookup_cons, List.lookup_cons]
      cases other == key <;> rfl
    next above =>
      rw [List.lookup_cons, List.lookup_cons,
        inductionHypothesis (List.pairwise_cons.1 ascending).2]
      by_cases same : other = key
      · subst same
        by_cases atHead : other = head
        · subst atHead
          simp [Std.ReflCmp.compare_self] at above
        · simp [beq_eq_false_iff_ne.2 atHead]
      · rw [beq_eq_false_iff_ne.2 same]
        cases other == head <;> rfl

/-- Exchanging returns what was found, and inserts. -/
theorem exchange_eq (map : OrderedMap κ α) (key : κ) (value : α) :
    map.exchange key value = (map.find? key, map.insert key value) := by
  apply Prod.ext
  · exact Ordered.exchangeEntry_fst key value map.ascending
  · simp only [exchange, insert, Ordered.exchangeEntry_snd]

end OrderedMap

end FlightRule
