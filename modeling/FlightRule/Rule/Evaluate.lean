import FlightRule.Direction
import FlightRule.Rule.Compiled

/-!
# Evaluation of compiled rules

A rule is evaluated on the itinerary of a single fare by `CompiledRule.outcome`, and on a usage in
a pricing unit by `CompiledRule.outcomeInUnit`.  Both look at a list of segments in the same way,
`CompiledRule.look`: the part inside the rule's window, and in it the flown segments.
-/

namespace FlightRule

/-- What a rule with a requirement finds in a list of segments. -/
inductive Finding where
  /-- The rule applies nowhere. -/
  | outOfReach
  /-- The journey has no window for the rule. -/
  | noWindow
  /-- Nothing is flown in the window. -/
  | nothingFlown
  /-- The number of flown segments, the spans found, and the outcome. -/
  | judged (flown : Nat) (spans : List Span) (outcome : Outcome)
deriving DecidableEq, Repr

/-- The outcome that a finding stands for; where nothing is flown, nothing is violated. -/
def Finding.outcome : Finding → Outcome
  | outOfReach => .skip
  | noWindow => .skip
  | nothingFlown => .pass
  | judged _ _ outcome => outcome

namespace CompiledRule

/-- Whether a requirement is met in a window, turned round when the way by a place is forbidden. -/
def witness
    (scope : GeoScope)
    (requirement : Requirement)
    (context : Context)
    (segments opposite : List Segment) : Witness :=
  let witness := Witness.ofBool (requirement.isMet context segments opposite)
  if scope.forbidsPassage then witness.flip else witness

/--
The outcome of a requirement.  Where something else depends on the rule, the settings can say that
a provisional pass counts as not applicable.
-/
def qualify (rule : CompiledRule) (settings : Settings) (outcome : Outcome) : Outcome :=
  if rule.use.isQualifier && settings.softPassAsSkip && outcome == .softPass then .skip
  else outcome

/-- The outcome of a witness is never provisional. -/
@[simp] theorem qualify_outcome
    (rule : CompiledRule)
    (settings : Settings)
    (application : Application)
    (witness : Witness) :
    rule.qualify settings (witness.outcome application) = witness.outcome application := by
  cases witness <;> cases negative : application.isNegative <;>
    simp [qualify, Witness.outcome, negative]

/-- What the rule finds in a list of segments, given those of the other part of the unit. -/
def look
    (rule : CompiledRule)
    (requirement : Requirement)
    (context : Context)
    (segments opposite : List Segment) : Finding :=
  match rule.reach with
  | .nowhere => .outOfReach
  | .within scope =>
    match scope.window segments with
    | none => .noWindow
    | some window =>
      let inside := window.slice segments
      let flown := inside.countP Segment.isFlown
      if flown = 0 then .nothingFlown
      else
        .judged flown (requirement.spans context inside)
          (rule.qualify context.settings
            ((witness scope requirement context inside opposite).outcome rule.application))

/-- The outcome for the caller's use: the opposite where something applies if the rule fails. -/
def finish (rule : CompiledRule) (outcome : Outcome) : Outcome :=
  match rule.use with
  | .ifNotQualifier => outcome.negate
  | .primary | .ifQualifier => outcome

/-- The indicator that counts in a transaction. -/
def indicator (rule : CompiledRule) (context : Context) : DirectionIndicator :=
  rule.direction.effective context

/--
The outcome on the itinerary of a single fare.  A direction that only the pricing unit can judge
gives a provisional pass.
-/
def outcome (rule : CompiledRule) (context : Context) (itinerary : Itinerary) : Outcome :=
  rule.finish <|
    match rule.demand with
    | .fixed outcome => outcome
    | .requires requirement =>
      ((rule.indicator context).checkMarket itinerary.direction).getD
        (rule.look requirement context itinerary.segments []).outcome

/-- What the rule finds in the segments of a usage in a pricing unit. -/
def lookInUnit
    (rule : CompiledRule)
    (requirement : Requirement)
    (context : Context)
    (unit : PricingUnit)
    (usage : FareUsage) : Finding :=
  rule.look requirement context usage.itinerary.segments (unit.oppositeSegments usage)

/-- The outcome on a usage in a pricing unit. -/
def outcomeInUnit
    (rule : CompiledRule)
    (context : Context)
    (unit : PricingUnit)
    (usage : FareUsage) : Outcome :=
  rule.finish <|
    match rule.demand with
    | .fixed outcome => outcome
    | .requires requirement =>
      let outcomeOf (usage : FareUsage) :=
        (rule.lookInUnit requirement context unit usage).outcome
      if (rule.indicator context).needsUnit then
        (rule.indicator context).combine FareUsage.inbound outcomeOf unit.fareUsages
      else ((rule.indicator context).checkUsage usage).getD (outcomeOf usage)

/-- What the rule finds while it is evaluated on an itinerary, in order. -/
def findings (rule : CompiledRule) (context : Context) (itinerary : Itinerary) : List Finding :=
  match rule.demand with
  | .fixed _ => []
  | .requires requirement =>
    if ((rule.indicator context).checkMarket itinerary.direction).isSome then []
    else [rule.look requirement context itinerary.segments []]

/-- What the rule finds while it is evaluated on a usage in a pricing unit, in order. -/
def findingsInUnit
    (rule : CompiledRule)
    (context : Context)
    (unit : PricingUnit)
    (usage : FareUsage) : List Finding :=
  match rule.demand with
  | .fixed _ => []
  | .requires requirement =>
    let look := rule.lookInUnit requirement context unit
    if (rule.indicator context).needsUnit then
      ((rule.indicator context).consulted FareUsage.inbound (fun usage => (look usage).outcome)
        unit.fareUsages).map look
    else if ((rule.indicator context).checkUsage usage).isSome then []
    else [look usage]

end CompiledRule

end FlightRule
