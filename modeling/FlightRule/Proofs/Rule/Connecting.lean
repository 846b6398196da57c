import Mathlib.Data.List.Forall2
import FlightRule.Proofs.Rule.Plain

/-!
# Plain rules with CONNECTING

The outcome of a plain rule with CONNECTING, read off the record and the journey: its slots are met
at neighbouring positions as `Connection` says, and the journey has the shape that the record asks
for.  Segments that meet none of the slots that count are ignored: they may be exchanged for
others, and stand before and behind the rest of the journey, without any effect on the outcome but
by the shape.  None of them may stand between two neighbours.
-/

namespace FlightRule

/-! ## Positions -/

/-- A test of positions, moved by an offset. -/
def Shifted (offset : Nat) (test : Nat → Prop) (position : Nat) : Prop :=
  ∃ origin, offset + origin = position ∧ test origin

theorem shifted_add_iff
    {offset position : Nat}
    {test : Nat → Prop} :
    Shifted offset test (offset + position) ↔ test position := by
  constructor
  · rintro ⟨origin, reached, passes⟩
    obtain rfl : origin = position := Nat.add_left_cancel reached
    exact passes
  · intro passes
    exact ⟨position, rfl, passes⟩

theorem exists_shifted_iff
    {offset : Nat}
    {test rest : Nat → Prop} :
    (∃ position, Shifted offset test position ∧ rest position) ↔
      ∃ position, test position ∧ rest (offset + position) := by
  constructor
  · rintro ⟨_, ⟨origin, rfl, passes⟩, others⟩
    exact ⟨origin, passes, others⟩
  · rintro ⟨origin, passes, others⟩
    exact ⟨offset + origin, ⟨origin, rfl, passes⟩, others⟩

variable
  {first second third : Nat → Prop}
  {relation1 relation2 : Option Relation}

/-- Where a slot is not joined, its positions do not matter. -/
theorem Connection.congr
    {first' second' third' : Nat → Prop}
    (firstIff : ∀ position, first position ↔ first' position)
    (secondIff : relation1.isSome = true → ∀ position, second position ↔ second' position)
    (thirdIff : relation2.isSome = true → ∀ position, third position ↔ third' position) :
    Connection first second third relation1 relation2 ↔
      Connection first' second' third' relation1 relation2 := by
  obtain rfl : first = first' := by
    funext position
    exact propext (firstIff position)
  have sameSecond : relation1.isSome = true → second = second' := by
    intro joined
    funext position
    exact propext (secondIff joined position)
  have sameThird : relation2.isSome = true → third = third' := by
    intro joined
    funext position
    exact propext (thirdIff joined position)
  rcases relation1 with _ | relation1
  · rcases relation2 with _ | relation2
    · rfl
    · obtain rfl := sameThird rfl
      cases relation2 <;> rfl
  · obtain rfl := sameSecond rfl
    rcases relation2 with _ | relation2
    · cases relation1 <;> rfl
    · obtain rfl := sameThird rfl
      rfl

/-- A connection can be anywhere on the journey. -/
theorem Connection.shifted_iff (offset : Nat) :
    Connection (Shifted offset first) (Shifted offset second) (Shifted offset third)
        relation1 relation2 ↔
      Connection first second third relation1 relation2 := by
  have anywhere (test : Nat → Prop) :
      (∃ position, Shifted offset test position) ↔ ∃ position, test position := by
    simpa using @exists_shifted_iff offset test fun _ => True
  have pair (test next : Nat → Prop) :
      (∃ position, Shifted offset test position ∧ Shifted offset next (position + 1)) ↔
        ∃ position, test position ∧ next (position + 1) := by
    simp only [exists_shifted_iff, Nat.add_assoc, shifted_add_iff]
  rcases relation1 with _ | relation1
  · rcases relation2 with _ | relation2
    · rfl
    · cases relation2 <;> simp only [Connection, pair]
  · rcases relation2 with _ | relation2
    · cases relation1 <;> simp only [Connection, pair]
    · cases relation1 <;> cases relation2 <;>
        simp only [Connection, anywhere, pair, exists_shifted_iff, shifted_add_iff, Nat.add_assoc,
          or_and_right, exists_or]

namespace RuleRecord

/-- The segment meets no slot of the record that counts. -/
def Ignores
    (record : RuleRecord)
    (tables : TableSource)
    (vendor : String)
    (context : Context)
    (segment : Segment) : Prop :=
  ∀ slot ∈ record.usedSlots, ¬record.Meets tables vendor context slot segment

/--
The second list of segments is the first one with ignored segments exchanged for other ignored
segments, and with more of them before and behind.
-/
def SameUpToIgnored
    (record : RuleRecord)
    (tables : TableSource)
    (vendor : String)
    (context : Context)
    (segments others : List Segment) : Prop :=
  let ignores := record.Ignores tables vendor context
  ∃ before middle after, others = before ++ middle ++ after ∧
    (∀ segment ∈ before, ignores segment) ∧ (∀ segment ∈ after, ignores segment) ∧
    List.Forall₂ (fun segment other => segment = other ∨ ignores segment ∧ ignores other)
      segments middle

variable
  {record : RuleRecord}
  {tables : TableSource}
  {vendor : String}
  {compileContext context : Context}
  {segments others before after : List Segment}
  {slot : Slot}
  {position : Nat}

/-! ## Ignored segments -/

/-- Segments in front that the rule ignores only shift the positions. -/
theorem meetsAt_append_left_iff
    (used : slot ∈ record.usedSlots)
    (ignored : ∀ segment ∈ before, record.Ignores tables vendor context segment) :
    record.MeetsAt tables vendor context (before ++ segments) slot position ↔
      Shifted before.length (record.MeetsAt tables vendor context segments slot) position := by
  constructor
  · rintro ⟨segment, present, met⟩
    rw [Option.mem_def, List.getElem?_append] at present
    split at present
    next inside => exact absurd met (ignored segment (List.mem_of_getElem? present) slot used)
    next behind => exact ⟨position - before.length, by omega, segment, present, met⟩
  · rintro ⟨origin, rfl, segment, present, met⟩
    refine ⟨segment, ?_, met⟩
    rw [Option.mem_def, List.getElem?_append_right (by omega), Nat.add_sub_cancel_left]
    exact present

/-- Segments behind that the rule ignores do not matter. -/
theorem meetsAt_append_right_iff
    (used : slot ∈ record.usedSlots)
    (ignored : ∀ segment ∈ after, record.Ignores tables vendor context segment) :
    record.MeetsAt tables vendor context (segments ++ after) slot position ↔
      record.MeetsAt tables vendor context segments slot position := by
  constructor
  · rintro ⟨segment, present, met⟩
    rw [Option.mem_def, List.getElem?_append] at present
    split at present
    next inside => exact ⟨segment, present, met⟩
    next behind => exact absurd met (ignored segment (List.mem_of_getElem? present) slot used)
  · rintro ⟨segment, present, met⟩
    obtain ⟨inside, _⟩ := List.getElem?_eq_some_iff.1 present
    refine ⟨segment, ?_, met⟩
    rw [Option.mem_def, List.getElem?_append_left inside]
    exact present

/-- Segments that the rule ignores may be exchanged for others. -/
theorem meetsAt_exchange_iff
    (used : slot ∈ record.usedSlots)
    (exchanged : List.Forall₂ (fun segment other => segment = other ∨
      record.Ignores tables vendor context segment ∧ record.Ignores tables vendor context other)
        segments others) :
    record.MeetsAt tables vendor context others slot position ↔
      record.MeetsAt tables vendor context segments slot position := by
  induction exchanged generalizing position with
  | nil => rfl
  | cons same _ inductionHypothesis =>
      cases position with
      | zero =>
          rcases same with rfl | ⟨ignored, otherIgnored⟩
          · simp [MeetsAt]
          · simp [MeetsAt, ignored slot used, otherIgnored slot used]
      | succ position => exact inductionHypothesis

/-- The slots that count are met at the same positions, up to an offset. -/
theorem SameUpToIgnored.exists_meetsAt_iff
    (same : record.SameUpToIgnored tables vendor context segments others) :
    ∃ offset, ∀ slot ∈ record.usedSlots, ∀ position,
      record.MeetsAt tables vendor context others slot position ↔
        Shifted offset (record.MeetsAt tables vendor context segments slot) position := by
  obtain ⟨before, middle, after, rfl, beforeIgnored, afterIgnored, exchanged⟩ := same
  refine ⟨before.length, fun slot used position => ?_⟩
  rw [meetsAt_append_right_iff used afterIgnored, meetsAt_append_left_iff used beforeIgnored]
  have sameTest : record.MeetsAt tables vendor context middle slot =
      record.MeetsAt tables vendor context segments slot := by
    funext position
    exact propext (meetsAt_exchange_iff used exchanged)
  rw [sameTest]

/-! ## Outcomes -/

/-- A condition matches where the slot it stands for is met. -/
theorem matchesAt_iff_meetsAt
    {condition : Condition}
    (stands : condition.StandsFor slot tables vendor) :
    Criteria.MatchesAt condition record.filters context segments position ↔
      record.MeetsAt tables vendor context segments slot position :=
  exists_congr fun _ => and_congr_right fun _ => matches_iff_meets stands

/-- What a record with CONNECTING asks of a journey. -/
def AsksConnection
    (record : RuleRecord)
    (tables : TableSource)
    (vendor : String)
    (context : Context)
    (segments : List Segment) : Prop :=
  let meetsAt := record.MeetsAt tables vendor context segments
  Connection (meetsAt record.slots.first) (meetsAt record.slots.second)
    (meetsAt record.slots.third) record.relation1 record.relation2

/-- With CONNECTING, criteria find something when the slots are met as `Connection` says. -/
theorem Conditions.spans_ne_nil_iff_asksConnection
    (conditions : record.Conditions tables vendor)
    (connecting : record.relation1 = some .connecting ∨ record.relation2 = some .connecting)
    (notAfterOr : ¬(record.relation1 = some .or ∧ record.relation2 = some .connecting)) :
    conditions.criteria.spans record.filters context segments ≠ [] ↔
      record.AsksConnection tables vendor context segments := by
  rw [criteria, Criteria.spans_chainBy_ne_nil_iff notAfterOr,
    Criteria.nonempty_meaning_chainBy_iff_connection connecting notAfterOr]
  apply Connection.congr
  · intro position
    exact matchesAt_iff_meetsAt conditions.first_stands
  · intro joined position
    exact matchesAt_iff_meetsAt (conditions.second_stands joined)
  · intro joined position
    exact matchesAt_iff_meetsAt (conditions.third_stands joined)

/--
With CONNECTING, a plain rule passes where its criteria find something, in the right shape: one
CONNECTING is enough to leave out the question whether every flown segment is covered.
-/
theorem IsPlain.outcome_iff_of_connecting
    {itinerary : Itinerary}
    {found : Prop}
    (plain : record.IsPlain)
    (complete : record.IsComplete compileContext.tables vendor)
    (connecting : record.relation1 = some .connecting ∨ record.relation2 = some .connecting)
    (flown : ∃ segment ∈ itinerary.segments, segment.isFlown = true)
    (found_iff : ∀ conditions : record.Conditions compileContext.tables vendor,
      conditions.criteria.spans record.filters context itinerary.segments ≠ [] ↔ found) :
    let outcome := (record.compile .primary vendor compileContext).outcome context itinerary
    (outcome = .pass ↔ record.HasShape itinerary.segments ∧ found) ∧
      (outcome = .fail ↔ ¬(record.HasShape itinerary.segments ∧ found)) := by
  apply plain.outcome_iff complete flown
  intro conditions
  have hasConnecting : conditions.criteria.hasConnecting = true := by
    rw [Conditions.criteria, Criteria.hasConnecting_chainBy]
    simpa using connecting
  rw [isMet_requirementOf_iff, hasConnecting, found_iff conditions, eq_self, true_or, and_true,
    and_comm]

/--
With CONNECTING behind no OR, a plain rule passes where the connection that it asks for is found, in
the right shape.
-/
theorem IsPlain.outcome_iff_asksConnection
    {itinerary : Itinerary}
    (plain : record.IsPlain)
    (complete : record.IsComplete compileContext.tables vendor)
    (connecting : record.relation1 = some .connecting ∨ record.relation2 = some .connecting)
    (notAfterOr : ¬(record.relation1 = some .or ∧ record.relation2 = some .connecting))
    (flown : ∃ segment ∈ itinerary.segments, segment.isFlown = true) :
    let outcome := (record.compile .primary vendor compileContext).outcome context itinerary
    let asked :=
      record.HasShape itinerary.segments ∧
        record.AsksConnection compileContext.tables vendor context itinerary.segments
    (outcome = .pass ↔ asked) ∧ (outcome = .fail ↔ ¬asked) :=
  plain.outcome_iff_of_connecting complete connecting flown fun conditions =>
    conditions.spans_ne_nil_iff_asksConnection connecting notAfterOr

/-- Ignored segments have no part in a connection. -/
theorem SameUpToIgnored.asksConnection_iff
    (same : record.SameUpToIgnored tables vendor context segments others) :
    record.AsksConnection tables vendor context others ↔
      record.AsksConnection tables vendor context segments := by
  obtain ⟨offset, meetsAt_iff⟩ := same.exists_meetsAt_iff
  refine Iff.trans ?_ (Connection.shifted_iff offset)
  apply Connection.congr
  · exact meetsAt_iff record.slots.first (by simp [usedSlots])
  · intro joined
    exact meetsAt_iff record.slots.second (second_mem_usedSlots joined)
  · intro joined
    exact meetsAt_iff record.slots.third (third_mem_usedSlots joined)

end RuleRecord

/--
With CONNECTING, which does not follow an OR, a plain rule passes where its slots are met at
neighbouring positions as `Connection` says and the journey has the shape, and fails elsewhere.  No
slot is met where nothing is flown, so that such a segment separates its neighbours.  Segments that
meet no slot have no effect but by the shape, unless they come between two neighbours.
-/
theorem outcome_with_connecting
    (record : RuleRecord)
    (vendor : String)
    (compileContext context : Context)
    (itinerary : Itinerary)
    (plain : record.IsPlain)
    (complete : record.IsComplete compileContext.tables vendor)
    (connecting : record.relation1 = some .connecting ∨ record.relation2 = some .connecting)
    (notAfterOr : ¬(record.relation1 = some .or ∧ record.relation2 = some .connecting))
    (flown : ∃ segment ∈ itinerary.segments, segment.isFlown = true) :
    let outcomeOn := (record.compile .primary vendor compileContext).outcome context
    let meetsAt := record.MeetsAt compileContext.tables vendor context itinerary.segments
    let asked :=
      record.HasShape itinerary.segments ∧
        Connection (meetsAt record.slots.first) (meetsAt record.slots.second)
          (meetsAt record.slots.third) record.relation1 record.relation2
    ((outcomeOn itinerary = .pass ↔ asked) ∧ (outcomeOn itinerary = .fail ↔ ¬asked)) ∧
    (∀ position segment, itinerary.segments[position]? = some segment →
      segment.isFlown = false → ∀ slot, ¬meetsAt slot position) ∧
    ∀ other : Itinerary, (∃ segment ∈ other.segments, segment.isFlown = true) →
      record.SameUpToIgnored compileContext.tables vendor context itinerary.segments
        other.segments →
      (record.HasShape other.segments ↔ record.HasShape itinerary.segments) →
        outcomeOn other = outcomeOn itinerary := by
  intro outcomeOn meetsAt asked
  have judged : (outcomeOn itinerary = .pass ↔ asked) ∧ (outcomeOn itinerary = .fail ↔ ¬asked) :=
    plain.outcome_iff_asksConnection complete connecting notAfterOr flown
  refine ⟨judged, ?_, ?_⟩
  · rintro position segment present notFlown slot ⟨met, metPresent, metFlown, _⟩
    obtain rfl : segment = met := Option.some.inj (present.symm.trans metPresent)
    rw [notFlown] at metFlown
    exact Bool.false_ne_true metFlown
  · intro other otherFlown same sameShape
    have otherJudged : (outcomeOn other = .pass ↔ _) ∧ (outcomeOn other = .fail ↔ _) :=
      plain.outcome_iff_asksConnection complete connecting notAfterOr otherFlown
    rw [sameShape, same.asksConnection_iff] at otherJudged
    by_cases holds : asked
    · rw [judged.1.2 holds]
      exact otherJudged.1.2 holds
    · rw [judged.2.2 holds]
      exact otherJudged.2.2 holds

/-- A flight of one carrier has to be followed by one of another. -/
def carrierChange : RuleRecord where
  vendor := "ATP"
  itemNo := 1
  application := .must
  slots := { first := .literal "DL" (-1), second := .literal "AA" (-1) }
  relation1 := some .connecting

/-- Another flight ahead of the two does no harm, but travel on the ground between them does. -/
theorem outcome_of_carrier_change :
    carrierChange.IsPlain ∧ carrierChange.IsComplete (fun _ _ => none) "ATP" ∧
    (carrierChange.compile .primary "ATP" {}).outcome {}
        ⟨[.air "UA" 3 default default, .air "DL" 1 default default, .air "AA" 2 default default],
          .unknown⟩ = .pass ∧
    (carrierChange.compile .primary "ATP" {}).outcome {}
        ⟨[.air "DL" 1 default default, .surface default default, .air "AA" 2 default default],
          .unknown⟩ = .fail := by
  have plain : carrierChange.IsPlain := ⟨rfl, rfl, rfl, rfl⟩
  have complete : carrierChange.IsComplete (fun _ _ => none) "ATP" :=
    ⟨by decide, by decide, by decide⟩
  refine ⟨plain, complete, ?_, ?_⟩
  · refine (outcome_with_connecting carrierChange "ATP" {} {} _ plain complete (.inl rfl)
      (by decide) (by decide)).1.1.2 ⟨by decide, 1, ?_, ?_⟩
    · decide
    · decide
  · obtain ⟨judged, notMet, _⟩ := outcome_with_connecting carrierChange "ATP" {} {}
      ⟨[.air "DL" 1 default default, .surface default default, .air "AA" 2 default default],
        .unknown⟩ plain complete (.inl rfl) (by decide) (by decide)
    have separated := notMet 1 (.surface default default) rfl rfl
    refine judged.2.2 ?_
    rintro ⟨_, position, departs, arrives⟩
    match position with
    | 0 => exact separated _ arrives
    | 1 => exact separated _ departs
    | position + 2 =>
        obtain ⟨segment, present, _⟩ := arrives
        simp at present

end FlightRule
