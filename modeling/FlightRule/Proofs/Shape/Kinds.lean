import FlightRule.Proofs.Shape.Order
import FlightRule.Proofs.Text.Case

/-!
# How shapes go together

The shapes rest on three counts: the stops of a journey, with or without the hidden ones, its
carriers in upper case, and the flights that are alike.  The numbers of stops divide journeys into
those without a stop, with one, and with more (`ShapeKind.holds_iff_of_mem_byStops`); the carriers
divide them into single segments and connections of one or of several carriers.  One flight
throughout has one carrier, because codes that are alike have one upper-case form.
-/

namespace FlightRule

namespace Segment

variable {segments : List Segment} {countHidden : Bool}

/-! ## Stops and carriers -/

/-- Hidden stops add to the number of stops. -/
theorem stopCount_le_stopCount_hidden (segments : List Segment) :
    stopCount segments false ≤ stopCount segments true :=
  Nat.add_le_add_left (Nat.zero_le _) _

theorem length_le_stopCount (segments : List Segment) (countHidden : Bool) :
    segments.length ≤ stopCount segments countHidden + 1 := by
  rw [stopCount]
  omega

theorem mem_carriers {code : String} :
    code ∈ carriers segments ↔ ∃ segment ∈ segments, Text.upper segment.carrier = code := by
  rw [carriers, Ordered.mem_ofList, List.mem_map]

theorem carriers_ne_nil (nonempty : segments ≠ []) : carriers segments ≠ [] := by
  obtain ⟨segment, member⟩ := List.exists_mem_of_ne_nil segments nonempty
  exact List.ne_nil_of_mem (mem_carriers.2 ⟨segment, member, rfl⟩)

/-- Segments whose carriers have one upper-case form have one carrier. -/
theorem carriers_eq_singleton
    {code : String}
    (nonempty : segments ≠ [])
    (same : ∀ segment ∈ segments, Text.upper segment.carrier = code) :
    carriers segments = [code] := by
  apply Ordered.Ascending.ext (Ordered.ascending_ofList _) (List.pairwise_singleton _ _)
  intro other
  rw [← carriers, mem_carriers, List.mem_singleton]
  constructor
  · rintro ⟨segment, member, rfl⟩
    exact same segment member
  · rintro rfl
    obtain ⟨segment, member⟩ := List.exists_mem_of_ne_nil segments nonempty
    exact ⟨segment, member, same segment member⟩

theorem upper_carrier_of_sameFlight
    {left right : Segment}
    (same : left.sameFlight right = true) :
    Text.upper left.carrier = Text.upper right.carrier := by
  rw [sameFlight, Bool.and_eq_true] at same
  exact Text.upper_eq_of_alike same.1

end Segment

namespace ShapeKind

variable {segments opposite : List Segment} {kind : ShapeKind} {countHidden : Bool}

/-! ## The kinds that count stops -/

/-- The shapes that are about the number of stops. -/
def byStops : List ShapeKind := [nonStop, oneStop, multiStop]

/-- The shape of a journey with a number of stops. -/
def ofStops : Nat → ShapeKind
  | 0 => nonStop
  | 1 => oneStop
  | _ + 2 => multiStop

section OfStops

variable {stops : Nat}

theorem ofStops_eq_nonStop_iff : ofStops stops = nonStop ↔ stops = 0 := by
  match stops with
  | 0 | 1 | _ + 2 => simp [ofStops]

theorem ofStops_eq_oneStop_iff : ofStops stops = oneStop ↔ stops = 1 := by
  match stops with
  | 0 | 1 | _ + 2 => simp [ofStops]

theorem ofStops_eq_multiStop_iff : ofStops stops = multiStop ↔ 1 < stops := by
  match stops with
  | 0 | 1 | _ + 2 => simp [ofStops]

theorem ofStops_mem_byStops (stops : Nat) : ofStops stops ∈ byStops := by
  match stops with
  | 0 | 1 | _ + 2 => simp [ofStops, byStops]

/-- More stops leave the shape as it is, or turn it into one with more stops. -/
theorem ofStops_of_le {more : Nat} (atLeast : stops ≤ more) :
    ofStops stops = ofStops more ∨ ofStops stops = nonStop ∨
      ofStops stops = oneStop ∧ ofStops more = multiStop := by
  match stops with
  | 0 => exact .inr (.inl rfl)
  | 1 =>
      rcases atLeast.eq_or_lt with rfl | above
      · exact .inl rfl
      · exact .inr (.inr ⟨rfl, ofStops_eq_multiStop_iff.2 above⟩)
  | _ + 2 =>
      rw [ofStops, eq_comm, ofStops_eq_multiStop_iff]
      omega

end OfStops

/-- A journey has the one of these shapes that its number of stops names. -/
theorem holds_iff_of_mem_byStops
    (nonempty : segments ≠ [])
    (listed : kind ∈ byStops) :
    kind.holds segments opposite countHidden = true ↔
      ofStops (Segment.stopCount segments countHidden) = kind := by
  have positive : 0 < segments.length := List.length_pos_iff.2 nonempty
  have bounded := Segment.length_le_stopCount segments countHidden
  simp only [byStops, List.mem_cons, List.not_mem_nil, or_false] at listed
  rcases listed with rfl | rfl | rfl
  · rw [ofStops_eq_nonStop_iff]
    simp only [holds, Bool.and_eq_true, beq_iff_eq]
    omega
  · rw [ofStops_eq_oneStop_iff]
    exact beq_iff_eq
  · rw [ofStops_eq_multiStop_iff]
    exact decide_eq_true_iff

/-- A journey has exactly one kind by its number of stops. -/
theorem countP_byStops (nonempty : segments ≠ []) :
    byStops.countP (·.holds segments opposite countHidden) = 1 := by
  have counted : byStops.countP (·.holds segments opposite countHidden) =
      byStops.count (ofStops (Segment.stopCount segments countHidden)) := by
    apply List.countP_congr
    intro kind listed
    rw [holds_iff_of_mem_byStops nonempty listed, beq_iff_eq, eq_comm]
  rw [counted]
  exact List.count_eq_one_of_mem (by decide) (ofStops_mem_byStops _)

/-- Each way to count stops finds one of these shapes, so that they cannot all be ruled out. -/
theorem holds_constraint_of_byStops_subset
    (nonempty : segments ≠ [])
    {constraint : ShapeConstraint}
    (excluded : byStops ⊆ constraint.invalid) :
    constraint.holds segments opposite = false := by
  have listed := ofStops_mem_byStops (Segment.stopCount segments constraint.countHidden)
  have found : (ofStops (Segment.stopCount segments constraint.countHidden)).holds segments opposite
      constraint.countHidden = true :=
    (holds_iff_of_mem_byStops nonempty listed).2 rfl
  rw [ShapeConstraint.holds, Bool.and_eq_false_iff]
  right
  rw [List.all_eq_false]
  exact ⟨_, excluded listed, by rw [found]; decide⟩

/-- Only the shapes that count stops depend on whether hidden stops count. -/
theorem holds_hidden_of_not_mem_byStops (notListed : kind ∉ byStops) :
    kind.holds segments opposite true = kind.holds segments opposite false := by
  cases kind with
  | nonStop | oneStop | multiStop => exact absurd (by decide) notListed
  | direct | online | interline | sameFlight => rfl

/-! ## One flight throughout -/

/-- A journey without stops is direct. -/
theorem holds_direct_of_nonStop (single : nonStop.holds segments opposite countHidden = true) :
    direct.holds segments opposite countHidden = true := by
  rw [holds, Bool.and_eq_true, beq_iff_eq] at single
  obtain ⟨segment, rfl⟩ := List.length_eq_one_iff.1 single.1
  simp [holds, Segment.sameFlight]

/-- A direct journey has one carrier. -/
theorem length_carriers_of_direct
    (throughout : direct.holds segments opposite countHidden = true) :
    (Segment.carriers segments).length = 1 := by
  obtain ⟨flight, member, sameAsFlight⟩ := holds_direct_iff.1 throughout
  rw [Segment.carriers_eq_singleton (List.ne_nil_of_mem member) fun segment member =>
    Segment.upper_carrier_of_sameFlight (sameAsFlight segment member), List.length_singleton]

/-- A direct journey of several segments repeats its flight. -/
theorem repeatsFlight_of_direct
    (several : 1 < segments.length)
    (throughout : direct.holds segments opposite countHidden = true) :
    Segment.repeatsFlight segments = true := by
  obtain ⟨flight, _, sameAsFlight⟩ := holds_direct_iff.1 throughout
  match segments with
  | [] | [_] => simp at several
  | first :: second :: rest =>
      have firstSame := sameAsFlight first (by simp)
      have secondSame := sameAsFlight second (by simp)
      rw [Segment.sameFlight_comm] at secondSame
      simp [Segment.repeatsFlight, Segment.sameFlight_trans firstSame secondSame]

/-! ## One carrier or several -/

/-- A journey is a single segment, or connects flights of one carrier, or of several. -/
theorem count_by_carriers (nonempty : segments ≠ []) :
    [segments.length == 1, online.holds segments opposite countHidden,
      interline.holds segments opposite countHidden].count true = 1 := by
  by_cases single : segments.length = 1
  · obtain ⟨segment, rfl⟩ := List.length_eq_one_iff.1 single
    rfl
  · have someSegment := List.length_pos_iff.2 nonempty
    have someCarrier := List.length_pos_iff.2 (Segment.carriers_ne_nil nonempty)
    have several : 1 < segments.length := by omega
    by_cases oneCarrier : (Segment.carriers segments).length = 1
    · simp [holds, single, several, oneCarrier]
    · have severalCarriers : 1 < (Segment.carriers segments).length := by omega
      simp [holds, single, oneCarrier, severalCarriers]

/-! ## Flights in both parts of a unit -/

/-- Without flights to compare with, a journey is compared with itself. -/
theorem holds_sameFlight_of_not_flown (grounded : ∀ segment ∈ opposite, segment.isFlown = false) :
    sameFlight.holds segments opposite countHidden = Segment.repeatsFlight segments := by
  have noneFlown : opposite.filter Segment.isFlown = [] := by
    rw [List.filter_eq_nil_iff]
    intro segment member
    rw [grounded segment member]
    exact Bool.false_ne_true
  simp [holds, noneFlown]

/-- A journey has the same flight as its other part when one of its segments has. -/
theorem holds_sameFlight_iff (flies : ∃ segment ∈ opposite, segment.isFlown = true) :
    sameFlight.holds segments opposite countHidden = true ↔
      ∃ segment ∈ segments, ∃ other ∈ opposite.filter Segment.isFlown,
        segment.sameFlight other = true := by
  have someFlown : (opposite.filter Segment.isFlown).isEmpty = false := by
    simpa [List.filter_eq_nil_iff] using flies
  simp only [holds, someFlown, Bool.false_eq_true, if_false, List.any_eq_true]

/-- To have a flight in common is symmetric. -/
theorem holds_sameFlight_comm
    {first second : List Segment}
    (firstFlies : ∃ segment ∈ first, segment.isFlown = true)
    (secondFlies : ∃ segment ∈ second, segment.isFlown = true) :
    sameFlight.holds (first.filter Segment.isFlown) second countHidden =
      sameFlight.holds (second.filter Segment.isFlown) first countHidden := by
  rw [Bool.eq_iff_iff, holds_sameFlight_iff firstFlies, holds_sameFlight_iff secondFlies]
  constructor
  · rintro ⟨segment, member, other, otherMember, same⟩
    exact ⟨other, otherMember, segment, member, by rwa [Segment.sameFlight_comm]⟩
  · rintro ⟨other, otherMember, segment, member, same⟩
    exact ⟨segment, member, other, otherMember, by rwa [Segment.sameFlight_comm]⟩

/-- A journey without segments has no shape. -/
theorem holds_nil (kind : ShapeKind) (opposite : List Segment) (countHidden : Bool) :
    kind.holds [] opposite countHidden = false := by
  cases kind with
  | nonStop | direct | online | interline => rfl
  | oneStop | multiStop => cases countHidden <;> rfl
  | sameFlight => simp [holds, Segment.repeatsFlight]

end ShapeKind

/-- How the shapes of a journey and of the other part of its unit go together. -/
structure Segment.ShapesFit (segments opposite : List Segment) (countHidden : Bool) : Prop where
  /-- The journey has one of the shapes that count stops. -/
  one_by_stops : ShapeKind.byStops.countP (·.holds segments opposite countHidden) = 1
  /-- It is a single segment, or connects flights of one carrier, or of several. -/
  one_by_carriers :
    [segments.length == 1, ShapeKind.online.holds segments opposite countHidden,
      ShapeKind.interline.holds segments opposite countHidden].count true = 1
  direct_of_nonStop :
    ShapeKind.nonStop.holds segments opposite countHidden = true →
      ShapeKind.direct.holds segments opposite countHidden = true
  not_interline_of_direct :
    ShapeKind.direct.holds segments opposite countHidden = true →
      ShapeKind.interline.holds segments opposite countHidden = false
  online_of_direct :
    ShapeKind.direct.holds segments opposite countHidden = true → 1 < segments.length →
      ShapeKind.online.holds segments opposite countHidden = true
  sameFlight_of_direct :
    ShapeKind.direct.holds segments opposite countHidden = true → 1 < segments.length →
      (∀ segment ∈ opposite, segment.isFlown = false) →
        ShapeKind.sameFlight.holds segments opposite countHidden = true
  /-- Hidden stops leave the number of stops as it is, or add to it. -/
  more_by_hidden : ∀ kind ∈ ShapeKind.byStops, ∀ counted ∈ ShapeKind.byStops,
    kind.holds segments opposite false = true → counted.holds segments opposite true = true →
      kind = counted ∨ kind = .nonStop ∨ kind = .oneStop ∧ counted = .multiStop
  /-- Hidden stops do not matter for the other shapes. -/
  same_by_hidden : ∀ kind ∉ ShapeKind.byStops,
    kind.holds segments opposite true = kind.holds segments opposite false
  sameFlight_comm :
    (∃ segment ∈ segments, segment.isFlown = true) →
    (∃ segment ∈ opposite, segment.isFlown = true) →
      ShapeKind.sameFlight.holds (segments.filter Segment.isFlown) opposite countHidden =
        ShapeKind.sameFlight.holds (opposite.filter Segment.isFlown) segments countHidden
  /-- Not all of the shapes that count stops can be ruled out. -/
  excludes_all : ∀ constraint : ShapeConstraint, ShapeKind.byStops ⊆ constraint.invalid →
    constraint.holds segments opposite = false

/--
A journey with segments has exactly one of the shapes that count stops, which hidden stops can only
move towards more stops; and it is a single segment, or else has either one carrier or several.  A
segment without a stop is one flight throughout.  One flight throughout has one carrier, and over
several segments it is a flight used twice, unless the other part of the unit has flights.  To have
a flight in common with that part is symmetric.  A journey without segments has no shape.
-/
theorem shapes_fit_together (segments opposite : List Segment) (countHidden : Bool) :
    (segments ≠ [] → Segment.ShapesFit segments opposite countHidden) ∧
      ∀ kind : ShapeKind, kind.holds [] opposite countHidden = false := by
  refine ⟨fun nonempty => ?_, fun kind => kind.holds_nil opposite countHidden⟩
  exact {
    one_by_stops := ShapeKind.countP_byStops nonempty
    one_by_carriers := ShapeKind.count_by_carriers nonempty
    direct_of_nonStop := ShapeKind.holds_direct_of_nonStop
    not_interline_of_direct := fun throughout => by
      simp [ShapeKind.holds, ShapeKind.length_carriers_of_direct throughout]
    online_of_direct := fun throughout several => by
      simp [ShapeKind.holds, ShapeKind.length_carriers_of_direct throughout, several]
    sameFlight_of_direct := fun throughout several grounded => by
      rw [ShapeKind.holds_sameFlight_of_not_flown grounded]
      exact ShapeKind.repeatsFlight_of_direct several throughout
    more_by_hidden := fun kind listed counted countedListed holds countedHolds => by
      rw [ShapeKind.holds_iff_of_mem_byStops nonempty listed] at holds
      rw [ShapeKind.holds_iff_of_mem_byStops nonempty countedListed] at countedHolds
      rw [← holds, ← countedHolds]
      exact ShapeKind.ofStops_of_le (Segment.stopCount_le_stopCount_hidden segments)
    same_by_hidden := fun kind notListed => ShapeKind.holds_hidden_of_not_mem_byStops notListed
    sameFlight_comm := ShapeKind.holds_sameFlight_comm
    excludes_all := fun constraint excluded =>
      ShapeKind.holds_constraint_of_byStops_subset nonempty excluded }

/-- A flight with a hidden stop on each of its two segments is used again in the other part. -/
theorem shapes_of_flight_with_stops :
    let stop : Location := default
    let segments : List Segment :=
      [(Segment.air "dl" 1 stop stop).addHiddenStop stop,
        (Segment.air "DL" 1 stop stop).addHiddenStop stop]
    let opposite : List Segment := [.surface stop stop, .air "Dl" 1 stop stop]
    segments ≠ [] ∧ ShapeKind.direct.holds segments opposite true = true ∧
      1 < segments.length ∧
      ShapeKind.online.holds segments opposite true = true ∧
      ShapeKind.oneStop.holds segments opposite false = true ∧
      ShapeKind.multiStop.holds segments opposite true = true ∧
      ShapeKind.sameFlight.holds (opposite.filter Segment.isFlown) segments true = true := by
  intro stop segments opposite
  have nonempty : segments ≠ [] := List.cons_ne_nil _ _
  have fit := (shapes_fit_together segments opposite true).1 nonempty
  have throughout : ShapeKind.direct.holds segments opposite true = true := by decide
  have common :
      ShapeKind.sameFlight.holds (segments.filter Segment.isFlown) opposite true = true := by
    decide
  rw [fit.sameFlight_comm (by decide) (by decide)] at common
  exact ⟨nonempty, throughout, by decide, fit.online_of_direct throughout (by decide), by decide,
    by decide, common⟩

end FlightRule
