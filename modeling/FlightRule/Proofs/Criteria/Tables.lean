import FlightRule.Proofs.Criteria.Laws

/-!
# Flight tables spelled out

A reference to a flight table stands for its rows, joined by AND/OR in any order and with any
brackets.  Criteria with some of their tables spelled out in this way find the same spans and speak
about the same flights, wherever the tables stand (`interchangeable_by_rows`).
-/

namespace FlightRule
namespace Criteria

variable
  {filters : List SegmentFilter}
  {context : Context}
  {segments : List Segment}
  {table : TableCondition}
  {criteria rows other : Criteria}

/-- The criteria join flights as in the rows of a table by AND/OR, each row once, in any order. -/
def ListsRows (criteria : Criteria) (table : TableCondition) : Prop :=
  (criteria.operands .andOr).Perm (table.rows.map fun row => leaf (.flight row))

instance (criteria : Criteria) (table : TableCondition) : Decidable (criteria.ListsRows table) :=
  inferInstanceAs (Decidable (List.Perm _ _))

/-- Rows can be listed where there are some. -/
theorem exists_listsRows_iff : (∃ rows : Criteria, rows.ListsRows table) ↔ table.rows ≠ [] := by
  constructor
  · rintro ⟨rows, lists⟩ noRows
    obtain ⟨first, rest, operands_eq, _⟩ := exists_joinBy_operands .andOr rows
    rw [ListsRows, operands_eq, noRows] at lists
    exact List.cons_ne_nil _ _ lists.eq_nil
  · intro someRows
    obtain ⟨first, rest, rows_eq⟩ := List.exists_cons_of_ne_nil someRows
    refine ⟨joinBy .andOr (leaf (.flight first)) ((rest.map Condition.flight).map leaf), ?_⟩
    rw [ListsRows, operands_joinBy_leaf, rows_eq, List.map_cons, List.map_map]
    exact .refl _

/-- A property that splits over AND/OR holds of the rows of a table when it holds of one of them. -/
theorem ListsRows.iff_exists_row
    (lists : rows.ListsRows table)
    (holds : Criteria → Prop)
    (either : ∀ left right, holds (combine .andOr left right) ↔ holds left ∨ holds right) :
    holds rows ↔ ∃ row ∈ table.rows, holds (leaf (.flight row)) := by
  rw [iff_exists_operand holds either]
  simp only [lists.mem_iff, List.mem_map, exists_exists_and_eq_and]

/-- A segment matches a table when it matches some row of it. -/
theorem matches_table_iff {segment : Segment} :
    Matches (.table table) filters context segment ↔
      ∃ row ∈ table.rows, Matches (.flight row) filters context segment := by
  simp only [Matches, Condition.accepts, TableCondition.accepts, Bool.and_eq_true,
    List.any_eq_true]
  constructor
  · rintro ⟨flown, ⟨_, row, member, accepted⟩, admitted⟩
    exact ⟨row, member, flown, accepted, admitted⟩
  · rintro ⟨row, member, flown, accepted, admitted⟩
    exact ⟨flown, ⟨flown, row, member, accepted⟩, admitted⟩

/-- A flight table is matched where one of its rows is. -/
theorem matchesAt_table_iff {position : Nat} :
    MatchesAt (.table table) filters context segments position ↔
      ∃ row ∈ table.rows, MatchesAt (.flight row) filters context segments position := by
  simp only [MatchesAt, matches_table_iff]
  constructor
  · rintro ⟨segment, present, row, member, matched⟩
    exact ⟨row, member, segment, present, matched⟩
  · rintro ⟨row, member, segment, present, matched⟩
    exact ⟨segment, present, row, member, matched⟩

/-- A reference to a table means the same as its rows. -/
theorem meansSame_of_listsRows (context : Context) (lists : rows.ListsRows table) :
    (leaf (.table table)).MeansSame context rows where
  spans_eq := fun filters segments => by
    apply (ascending_spans filters context segments _).ext (ascending_spans _ _ _ _)
    intro span
    rw [lists.iff_exists_row (span ∈ ·.spans filters context segments) fun _ _ => mem_spans_andOr]
    simp only [mem_spans_leaf, matchesAt_table_iff, ← and_assoc, exists_and_right]
  matched_eq := fun filters segment => by
    rw [Bool.eq_iff_iff, lists.iff_exists_row
      (fun flights => (flights.conditions.any fun condition =>
        matchedBy condition filters context segment) = true)
      fun _ _ => by rw [conditions, List.any_append, Bool.or_eq_true]]
    simp only [conditions, List.any_cons, List.any_nil, Bool.or_false, matchedBy_eq_true_iff,
      matches_table_iff]
  hasConnecting_eq := by
    rw [Bool.eq_iff_iff, lists.iff_exists_row (·.hasConnecting = true)
      fun _ _ => by simp [hasConnecting]]
    simp [hasConnecting]

/-- The second criteria are the first ones with tables spelled out, at none, some or all places. -/
inductive SpellsOutTables : Criteria → Criteria → Prop
  | same (criteria : Criteria) : SpellsOutTables criteria criteria
  | rows {table : TableCondition} {rows : Criteria} (lists : rows.ListsRows table) :
      SpellsOutTables (leaf (.table table)) rows
  | combine
      (relation : Relation)
      {left otherLeft right otherRight : Criteria}
      (leftSpelled : SpellsOutTables left otherLeft)
      (rightSpelled : SpellsOutTables right otherRight) :
      SpellsOutTables (combine relation left right) (combine relation otherLeft otherRight)

/-- Tables that are spelled out as rows mean the same. -/
theorem SpellsOutTables.meansSame
    (spelled : criteria.SpellsOutTables other)
    (context : Context) :
    criteria.MeansSame context other := by
  induction spelled with
  | same criteria => exact .refl context criteria
  | rows lists => exact meansSame_of_listsRows context lists
  | combine relation _ _ leftSame rightSame => exact leftSame.combine relation rightSame

/--
Every table that has rows can be spelled out, and criteria in which tables are spelled out can stand
for those that reference them.
-/
theorem interchangeable_by_rows :
    (∀ table : TableCondition, table.rows ≠ [] → ∃ rows : Criteria, rows.ListsRows table) ∧
    ∀ criteria other : Criteria, criteria.SpellsOutTables other → criteria.Interchangeable other :=
  ⟨fun _ => exists_listsRows_iff.2,
    fun _ _ spelled => interchangeable_of_meansSame spelled.meansSame⟩

/-- A table below OR and CONNECTING, with an alliance in one of its rows, is spelled out. -/
theorem spans_of_table_spelled_out :
    let row (code : String) : FlightCondition :=
      { FlightCondition.literal code .any with allianceAware := true }
    let carried (code : String) : Criteria := leaf (.flight (row code))
    let table : TableCondition := ⟨"ATP", 1, [row "DL", row "AA", row "SKYTEAM"]⟩
    let rows := combine .andOr (carried "SKYTEAM") (combine .andOr (carried "DL") (carried "AA"))
    let asked (flights : Criteria) :=
      combine .connecting (combine .or (carried "BA") flights) (leaf .anyFlown)
    let context : Context := { roundTheWorld := true, alliances := fun _ => .ofList ["SKYTEAM"] }
    let segments : List Segment := [.air "AF" 1 default default, .air "UA" 2 default default]
    (table.rows ≠ [] ∧ ∃ rows : Criteria, rows.ListsRows table) ∧
      (asked (leaf (.table table))).SpellsOutTables (asked rows) ∧
      (asked (leaf (.table table))).spans [] context segments = [⟨0, 1⟩] ∧
      (asked rows).spans [] context segments = [⟨0, 1⟩] := by
  intro row carried table rows asked context segments
  have someRows : table.rows ≠ [] := by decide
  have spelled : (asked (leaf (.table table))).SpellsOutTables (asked rows) :=
    .combine .connecting (.combine .or (.same _) (.rows (by decide))) (.same _)
  have found : (asked (leaf (.table table))).spans [] context segments = [⟨0, 1⟩] := by decide
  have sameSpans := (interchangeable_by_rows.2 _ _ spelled).spans_eq [] context segments
  exact ⟨⟨someRows, interchangeable_by_rows.1 table someRows⟩, spelled, found,
    sameSpans.symm.trans found⟩

end Criteria
end FlightRule
