import FlightRule.Rule.Compile
import FlightRule.Rule.Evaluate

/-!
# Reaching the witness

Most ways through the evaluation of a rule end before its requirement is looked at: with a fixed
outcome, with a direction that settles the matter, without a window, or without a flown segment.
`CompiledRule.Reaches` describes the remaining way, and `CompiledRule.outcome_of_reaches` says
what its outcome is.  Rules that only differ in what they make of the witness share all the other
ways, `CompiledRule.Alike.outcome_of_not_reachesWitness`.
-/

namespace FlightRule

/-- The window of a rule on a journey, if the rule applies somewhere and the window exists. -/
def Reach.window (reach : Reach) (segments : List Segment) : Option Window :=
  match reach with
  | nowhere => none
  | within scope => scope.window segments

/-- The way by some place is forbidden. -/
def Reach.forbidsPassage : Reach → Bool
  | nowhere => false
  | within scope => scope.forbidsPassage

namespace CompiledRule

/--
On an itinerary the rule looks at a requirement in a window: it has no fixed outcome, the
direction does not settle the matter, and something is flown in the window of its scope.
-/
structure Reaches
    (rule : CompiledRule)
    (context : Context)
    (itinerary : Itinerary)
    (requirement : Requirement)
    (scope : GeoScope)
    (window : Window) : Prop where
  demand_eq : rule.demand = .requires requirement
  undecided : (rule.indicator context).checkMarket itinerary.direction = none
  reach_eq : rule.reach = .within scope
  window_eq : scope.window itinerary.segments = some window
  flown : ∃ segment ∈ window.slice itinerary.segments, segment.isFlown = true

/-- On an itinerary the rule looks at its requirement. -/
def ReachesWitness
    (rule : CompiledRule)
    (context : Context)
    (itinerary : Itinerary) : Prop :=
  ∃ requirement scope window, rule.Reaches context itinerary requirement scope window

/-- The rule passes when its requirement is not met. -/
def turnsRound (rule : CompiledRule) : Bool :=
  rule.application.isNegative != rule.reach.forbidsPassage

variable
  {rule other : CompiledRule}
  {context : Context}
  {itinerary : Itinerary}
  {requirement : Requirement}
  {scope : GeoScope}
  {window : Window}

/--
A finding passes a rule when the requirement is met, turned round once for a negative application
and once more for a forbidden passage.
-/
theorem outcome_witness
    (scope : GeoScope)
    (requirement : Requirement)
    (context : Context)
    (segments opposite : List Segment)
    (application : Application) :
    (witness scope requirement context segments opposite).outcome application =
      if requirement.isMet context segments opposite !=
          (application.isNegative != scope.forbidsPassage) then .pass else .fail := by
  unfold witness
  cases requirement.isMet context segments opposite <;>
    cases scope.forbidsPassage <;>
    cases negative : application.isNegative <;>
    simp [Witness.ofBool, Witness.flip, Witness.outcome, negative]

theorem finish_pass_or_fail
    {outcome : Outcome}
    (firm : outcome = .pass ∨ outcome = .fail) :
    rule.finish outcome = .pass ∨ rule.finish outcome = .fail := by
  rcases firm with rfl | rfl <;> cases use : rule.use <;> simp [finish, use, Outcome.negate]

theorem finish_negate (outcome : Outcome) :
    rule.finish outcome.negate = (rule.finish outcome).negate := by
  cases use : rule.use <;> simp [finish, use]

/-- What a rule finds in a list of segments depends on its window, and on what is flown in it. -/
theorem outcome_look
    (rule : CompiledRule)
    (requirement : Requirement)
    (context : Context)
    (segments opposite : List Segment) :
    (rule.look requirement context segments opposite).outcome =
      (rule.reach.window segments).elim .skip fun window =>
        if (window.slice segments).countP Segment.isFlown = 0 then .pass
        else if requirement.isMet context (window.slice segments) opposite != rule.turnsRound
          then .pass
        else .fail := by
  unfold look turnsRound
  cases rule.reach with
  | nowhere => rfl
  | within scope =>
      simp only [Reach.window, Reach.forbidsPassage]
      cases scope.window segments with
      | none => rfl
      | some window =>
          simp only [Option.elim_some, qualify_outcome]
          split
          · rfl
          · exact outcome_witness scope requirement context (window.slice segments) opposite _

/-- Where the requirement is looked at, the outcome depends on nothing but whether it is met. -/
theorem outcome_of_reaches
    (reaches : rule.Reaches context itinerary requirement scope window) :
    rule.outcome context itinerary =
      rule.finish
        (if requirement.isMet context (window.slice itinerary.segments) [] != rule.turnsRound
          then .pass else .fail) := by
  obtain ⟨segment, inside, flown⟩ := reaches.flown
  have someFlown : (window.slice itinerary.segments).countP Segment.isFlown ≠ 0 := by
    rw [Ne, List.countP_eq_zero]
    exact fun noneFlown => noneFlown segment inside flown
  have window_eq : rule.reach.window itinerary.segments = some window := by
    rw [reaches.reach_eq]
    exact reaches.window_eq
  simp only [outcome, reaches.demand_eq, reaches.undecided, Option.getD_none, outcome_look,
    window_eq, Option.elim_some, if_neg someFlown]

/-- Where the requirement is looked at, the outcome is firm. -/
theorem outcome_pass_or_fail_of_reachesWitness
    (reachesWitness : rule.ReachesWitness context itinerary) :
    rule.outcome context itinerary = .pass ∨ rule.outcome context itinerary = .fail := by
  obtain ⟨requirement, scope, window, reaches⟩ := reachesWitness
  rw [outcome_of_reaches reaches]
  apply finish_pass_or_fail
  split
  · exact .inl rfl
  · exact .inr rfl

/-! ## Rules that look at the same segments -/

/-- Two rules ask for the same, in the same direction and in the same windows. -/
structure Alike (rule other : CompiledRule) : Prop where
  use_eq : other.use = rule.use
  direction_eq : other.direction = rule.direction
  demand_eq : other.demand = rule.demand
  window_eq : ∀ segments, other.reach.window segments = rule.reach.window segments

theorem Alike.symm (alike : rule.Alike other) : other.Alike rule where
  use_eq := alike.use_eq.symm
  direction_eq := alike.direction_eq.symm
  demand_eq := alike.demand_eq.symm
  window_eq := fun segments => (alike.window_eq segments).symm

theorem Alike.indicator_eq (alike : rule.Alike other) (context : Context) :
    other.indicator context = rule.indicator context := by
  rw [indicator, indicator, alike.direction_eq]

theorem Alike.finish_eq (alike : rule.Alike other) (outcome : Outcome) :
    other.finish outcome = rule.finish outcome := by
  rw [finish, finish, alike.use_eq]

theorem Alike.reaches
    (alike : rule.Alike other)
    (reaches : rule.Reaches context itinerary requirement scope window) :
    ∃ scope, other.Reaches context itinerary requirement scope window := by
  have found : other.reach.window itinerary.segments = some window := by
    rw [alike.window_eq, reaches.reach_eq]
    exact reaches.window_eq
  cases reach_eq : other.reach with
  | nowhere =>
      rw [reach_eq] at found
      simp [Reach.window] at found
  | within otherScope =>
      rw [reach_eq] at found
      exact ⟨otherScope, {
        demand_eq := by rw [alike.demand_eq, reaches.demand_eq]
        undecided := by rw [alike.indicator_eq, reaches.undecided]
        reach_eq
        window_eq := found
        flown := reaches.flown }⟩

/-- Rules that are alike come to a finding on the same journeys. -/
theorem Alike.reachesWitness_iff (alike : rule.Alike other) :
    other.ReachesWitness context itinerary ↔ rule.ReachesWitness context itinerary := by
  constructor
  · rintro ⟨requirement, scope, window, reaches⟩
    obtain ⟨ownScope, ownReaches⟩ := alike.symm.reaches reaches
    exact ⟨requirement, ownScope, window, ownReaches⟩
  · rintro ⟨requirement, scope, window, reaches⟩
    obtain ⟨otherScope, otherReaches⟩ := alike.reaches reaches
    exact ⟨requirement, otherScope, window, otherReaches⟩

/-- The outcome of a finding without a judgement is read off the window. -/
theorem outcome_look_of_nothing_flown
    {segments opposite : List Segment}
    (noneFlown : ∀ window, rule.reach.window segments = some window →
      (window.slice segments).countP Segment.isFlown = 0) :
    (rule.look requirement context segments opposite).outcome =
      (rule.reach.window segments).elim .skip fun _ => .pass := by
  rw [outcome_look]
  cases window_eq : rule.reach.window segments with
  | none => rfl
  | some window => exact if_pos (noneFlown window window_eq)

/-- Where the requirement is not looked at, rules that are alike have one outcome. -/
theorem Alike.outcome_of_not_reachesWitness
    (alike : rule.Alike other)
    (notReached : ¬rule.ReachesWitness context itinerary) :
    other.outcome context itinerary = rule.outcome context itinerary := by
  unfold outcome
  rw [alike.finish_eq, alike.demand_eq, alike.indicator_eq]
  cases demand_eq : rule.demand with
  | fixed outcome => rfl
  | requires requirement =>
      cases decided : (rule.indicator context).checkMarket itinerary.direction with
      | some outcome => rfl
      | none =>
          have noneFlown (window : Window)
              (found : rule.reach.window itinerary.segments = some window) :
              (window.slice itinerary.segments).countP Segment.isFlown = 0 := by
            rw [List.countP_eq_zero]
            intro segment inside flown
            cases reach_eq : rule.reach with
            | nowhere =>
                rw [reach_eq] at found
                simp [Reach.window] at found
            | within scope =>
                rw [reach_eq] at found
                exact notReached ⟨requirement, scope, window, demand_eq, decided, reach_eq,
                  found, segment, inside, flown⟩
          have otherNoneFlown (window : Window)
              (found : other.reach.window itinerary.segments = some window) :=
            noneFlown window (alike.window_eq itinerary.segments ▸ found)
          simp only [Option.getD_none]
          rw [outcome_look_of_nothing_flown noneFlown,
            outcome_look_of_nothing_flown otherNoneFlown, alike.window_eq]

/--
Where the requirement is looked at, rules that are alike have one outcome if both turn it round
or neither does, and opposite outcomes if one of them does.
-/
theorem Alike.outcome_of_reachesWitness
    (alike : rule.Alike other)
    (reachesWitness : rule.ReachesWitness context itinerary) :
    other.outcome context itinerary =
      if other.turnsRound = rule.turnsRound then rule.outcome context itinerary
      else (rule.outcome context itinerary).negate := by
  obtain ⟨requirement, scope, window, reaches⟩ := reachesWitness
  obtain ⟨otherScope, otherReaches⟩ := alike.reaches reaches
  rw [outcome_of_reaches reaches, outcome_of_reaches otherReaches, alike.finish_eq,
    ← finish_negate]
  cases requirement.isMet context (window.slice itinerary.segments) [] <;>
    cases other.turnsRound <;>
    cases rule.turnsRound <;>
    simp [Outcome.negate]

end CompiledRule
end FlightRule
