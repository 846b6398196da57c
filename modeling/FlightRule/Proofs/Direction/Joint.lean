import Mathlib.Data.List.Forall2
import FlightRule.Direction

/-!
# Joint outcomes

The joint outcome of several usages is found by looking at one usage after the other, with a mark
for the last one being skipped.  It can be read off the list of all their outcomes: the outcome
that decides, if it occurs anywhere, and otherwise the last outcome says whether the usages are
skipped (`Quantifier.join_eq_verdict`).  From this follow the joint outcomes of the indicators that
look at a whole pricing unit, which ask of a usage nothing but its part and its outcome
(`DirectionIndicator.combine_congr`).  Usages that are all skipped are skipped together, where
there are any (`Quantifier.join_filter_of_skipped`).
-/

namespace FlightRule
namespace Quantifier

variable
  {ι : Type}
  {quantifier : Quantifier}
  {outcome : ι → Outcome}
  {results : List Outcome}

/-- The outcome of a single usage that decides the joint outcome. -/
def deciding : Quantifier → Outcome
  | all => .fail
  | any => .pass

theorem decidedBy_eq_true_iff {outcome : Outcome} :
    quantifier.decidedBy outcome = true ↔ outcome = quantifier.deciding := by
  cases quantifier <;> exact beq_iff_eq

theorem deciding_ne_skip : quantifier.deciding ≠ .skip := by
  cases quantifier <;> decide

theorem undecided_ne_skip : quantifier.undecided ≠ .skip := by
  cases quantifier <;> decide

/-- The joint outcome, read off the outcomes of all usages. -/
def verdict (quantifier : Quantifier) (results : List Outcome) : Outcome :=
  if quantifier.deciding ∈ results then quantifier.deciding
  else if results.getLast? = some .skip then .skip
  else quantifier.undecided

/--
The mark is what the last outcome before the remaining usages has left: a skipped usage sets it, and
any other one that does not decide clears it.  It only counts when no usage remains.
-/
theorem joinFrom_eq
    (quantifier : Quantifier)
    (outcome : ι → Outcome)
    (skipped : Bool)
    (usages : List ι) :
    quantifier.joinFrom outcome skipped usages =
      if quantifier.deciding ∈ usages.map outcome then quantifier.deciding
      else if (usages.map outcome).getLast?.getD (if skipped then .skip else quantifier.undecided) =
        .skip then .skip
      else quantifier.undecided := by
  induction usages generalizing skipped with
  | nil => cases skipped <;> simp [joinFrom]
  | cons usage usages inductionHypothesis =>
      rw [joinFrom]
      simp only [List.map_cons, List.mem_cons, List.getLast?_cons, Option.getD_some,
        decidedBy_eq_true_iff]
      by_cases passedOver : outcome usage = .skip
      · rw [if_pos passedOver, inductionHypothesis]
        simp [passedOver, deciding_ne_skip]
      · rw [if_neg passedOver]
        by_cases decides : outcome usage = quantifier.deciding
        · simp [decides]
        · rw [if_neg decides, inductionHypothesis]
          have notDeciding : quantifier.deciding ≠ outcome usage := Ne.symm decides
          cases (usages.map outcome).getLast? <;>
            simp [notDeciding, passedOver, undecided_ne_skip]

/-- The joint outcome of usages is what their outcomes, taken together, amount to. -/
theorem join_eq_verdict
    (quantifier : Quantifier)
    (outcome : ι → Outcome)
    (usages : List ι) :
    quantifier.join outcome usages = quantifier.verdict (usages.map outcome) := by
  rw [join, joinFrom_eq, verdict]
  cases (usages.map outcome).getLast? <;> simp [undecided_ne_skip]

/-- Usages that are all skipped are skipped together, if there are any. -/
theorem join_of_skipped
    {usages : List ι}
    (nonempty : usages ≠ [])
    (skipped : ∀ usage ∈ usages, outcome usage = .skip) :
    quantifier.join outcome usages = .skip := by
  have notDecided : quantifier.deciding ∉ usages.map outcome := by
    intro decided
    obtain ⟨usage, member, decides⟩ := List.mem_map.1 decided
    exact deciding_ne_skip (decides.symm.trans (skipped usage member))
  have lastSkipped : (usages.map outcome).getLast? = some .skip := by
    rw [List.getLast?_map, List.getLast?_eq_some_getLast nonempty, Option.map_some,
      skipped _ (List.getLast_mem nonempty)]
  rw [join_eq_verdict, verdict, if_neg notDecided, if_pos lastSkipped]

/-- A part of usages that are all skipped is skipped, unless there is no usage in it. -/
theorem join_filter_of_skipped
    (quantifier : Quantifier)
    (test : ι → Bool)
    {usages : List ι}
    (skipped : ∀ usage ∈ usages, outcome usage = .skip) :
    quantifier.join outcome (usages.filter test) =
      if ∃ usage ∈ usages, test usage = true then .skip else quantifier.undecided := by
  split
  next served =>
      obtain ⟨usage, member, passes⟩ := served
      apply join_of_skipped
      · exact List.ne_nil_of_mem (List.mem_filter.2 ⟨member, passes⟩)
      · intro other otherMember
        exact skipped other (List.mem_filter.1 otherMember).1
  next notServed =>
      have empty : usages.filter test = [] := by simpa [List.filter_eq_nil_iff] using notServed
      rw [empty]
      rfl

/-! ## One usage has to pass -/

theorem verdict_any_eq_pass_iff : any.verdict results = .pass ↔ .pass ∈ results := by
  simp only [verdict, deciding, undecided]
  by_cases passes : .pass ∈ results
  · simp [passes]
  · by_cases skips : results.getLast? = some .skip <;> simp [passes, skips]

/-- Whether some usage passes is answered by one of three outcomes. -/
theorem verdict_any_cases (results : List Outcome) :
    any.verdict results = .pass ∨ any.verdict results = .fail ∨ any.verdict results = .skip := by
  unfold verdict
  split
  · exact .inl rfl
  · split
    · exact .inr (.inr rfl)
    · exact .inr (.inl rfl)

end Quantifier

/-! ## Both parts of a unit -/

namespace DirectionIndicator

variable
  {ι : Type}
  (isInbound : ι → Bool)
  (outcome : ι → Outcome)
  (usages : List ι)

/-- A usage of the unit is one of the outbound or one of the inbound usages. -/
theorem mem_map_iff_mem_map_filter {result : Outcome} :
    result ∈ usages.map outcome ↔
      result ∈ (usages.filter fun usage => !isInbound usage).map outcome ∨
        result ∈ (usages.filter isInbound).map outcome := by
  simp only [List.mem_map, List.mem_filter, Bool.not_eq_true']
  constructor
  · rintro ⟨usage, member, rfl⟩
    cases served : isInbound usage with
    | false => exact .inl ⟨usage, ⟨member, served⟩, rfl⟩
    | true => exact .inr ⟨usage, ⟨member, served⟩, rfl⟩
  · rintro (⟨usage, ⟨member, _⟩, rfl⟩ | ⟨usage, ⟨member, _⟩, rfl⟩)
    · exact ⟨usage, member, rfl⟩
    · exact ⟨usage, member, rfl⟩

/--
EITHER passes when some usage does, and is skipped only if both parts are: each part passes, fails
or is skipped, and the parts are joined by these three cases only.
-/
theorem either_combine :
    let outboundResults := (usages.filter fun usage => !isInbound usage).map outcome
    let inboundResults := (usages.filter isInbound).map outcome
    either.combine isInbound outcome usages =
      if .pass ∈ usages.map outcome then .pass
      else if Quantifier.any.verdict outboundResults = .skip ∧
          Quantifier.any.verdict inboundResults = .skip then .skip
      else .fail := by
  simp only [combine, Quantifier.join_eq_verdict,
    mem_map_iff_mem_map_filter isInbound outcome usages, ← Quantifier.verdict_any_eq_pass_iff]
  generalize (usages.filter fun usage => !isInbound usage).map outcome = outboundResults
  generalize (usages.filter isInbound).map outcome = inboundResults
  have outboundCases := Quantifier.verdict_any_cases outboundResults
  have inboundCases := Quantifier.verdict_any_cases inboundResults
  rcases outboundCases with outboundPart | outboundPart | outboundPart <;>
    rcases inboundCases with inboundPart | inboundPart | inboundPart <;>
      simp [outboundPart, inboundPart]

/-- Where neither part is skipped, they differ exactly when one of them has a usage that passes. -/
theorem oneNotBoth_combine :
    let outboundResults := (usages.filter fun usage => !isInbound usage).map outcome
    let inboundResults := (usages.filter isInbound).map outcome
    oneNotBoth.combine isInbound outcome usages =
      if Quantifier.any.verdict outboundResults = .skip ∨
          Quantifier.any.verdict inboundResults = .skip then .skip
      else if (.pass ∈ outboundResults ↔ .pass ∉ inboundResults) then .pass
      else .fail := by
  simp only [combine, Quantifier.join_eq_verdict, ← Quantifier.verdict_any_eq_pass_iff]
  generalize (usages.filter fun usage => !isInbound usage).map outcome = outboundResults
  generalize (usages.filter isInbound).map outcome = inboundResults
  have outboundCases := Quantifier.verdict_any_cases outboundResults
  have inboundCases := Quantifier.verdict_any_cases inboundResults
  rcases outboundCases with outboundPart | outboundPart | outboundPart <;>
    rcases inboundCases with inboundPart | inboundPart | inboundPart <;>
      simp [outboundPart, inboundPart]

/-- Of a usage, nothing counts but the part that it serves and its outcome. -/
theorem combine_map (indicator : DirectionIndicator) :
    indicator.combine isInbound outcome usages =
      indicator.combine Prod.fst Prod.snd
        (usages.map fun usage => (isInbound usage, outcome usage)) := by
  simp only [combine, Quantifier.join_eq_verdict, List.filter_map, List.map_map,
    Function.comp_def]

variable
  {isInbound outcome usages}
  {κ : Type}
  {otherInbound : κ → Bool}
  {otherOutcome : κ → Outcome}
  {others : List κ}

/-- Units that correspond usage by usage, in part and outcome, have one joint outcome. -/
theorem combine_congr
    (indicator : DirectionIndicator)
    (corresponds : List.Forall₂ (fun usage other =>
      isInbound usage = otherInbound other ∧ outcome usage = otherOutcome other) usages others) :
    indicator.combine isInbound outcome usages =
      indicator.combine otherInbound otherOutcome others := by
  have results_eq : usages.map (fun usage => (isInbound usage, outcome usage)) =
      others.map fun other => (otherInbound other, otherOutcome other) := by
    rw [← List.forall₂_eq_eq_eq, List.forall₂_map_left_iff, List.forall₂_map_right_iff]
    exact corresponds.imp fun usage other same => Prod.ext same.1 same.2
  rw [combine_map isInbound outcome usages, results_eq, ← combine_map]

end DirectionIndicator
end FlightRule
