import FlightRule.Context
import FlightRule.Outcome
import FlightRule.Record.Coding
import FlightRule.Travel

/-!
# Directions

A rule may apply to the outbound part of a journey, to the inbound part, or to a combination of
both.  A single fare is judged by the direction of its market, and a usage in a pricing unit also
by its place in the unit.  A combination is judged on all usages of the unit, by `combine`, which
asks for the outcome of one usage after the other; `consulted` lists the usages that it asks for.
-/

namespace FlightRule

namespace DirectionIndicator

/-- The indicator that counts in a transaction: none on a ticket round the world. -/
def effective (indicator : DirectionIndicator) (context : Context) : DirectionIndicator :=
  if context.roundTheWorld then blank else indicator

/-- The outcome for a single fare that its market direction decides, if it decides one. -/
def checkMarket : DirectionIndicator → MarketDirection → Option Outcome
  | blank, _ => none
  | outbound, .outbound => none
  | inbound, .inbound => none
  | outbound, .inbound => some .fail
  | inbound, .outbound => some .fail
  | outbound, .unknown => some .softPass
  | inbound, .unknown => some .softPass
  | either, _ => some .softPass
  | oneNotBoth, _ => some .softPass
  | both, _ => some .softPass

/-- The usage serves the part that the indicator leaves out. -/
def opposes (indicator : DirectionIndicator) (usage : FareUsage) : Bool :=
  match indicator, usage.itinerary.direction with
  | outbound, .inbound => true
  | outbound, .unknown => usage.inbound
  | inbound, .outbound => true
  | inbound, .unknown => !usage.inbound
  | _, _ => false

/-- The outcome for a usage that its direction decides, if it decides one. -/
def checkUsage (indicator : DirectionIndicator) (usage : FareUsage) : Option Outcome :=
  if indicator.opposes usage then some .fail else none

end DirectionIndicator

/-- How the outcomes of several usages are joined. -/
inductive Quantifier where
  /-- All usages have to pass. -/
  | all
  /-- One usage has to pass. -/
  | any
deriving DecidableEq, Repr

namespace Quantifier

variable {ι : Type}

/-- The outcome of one usage decides the joint outcome. -/
def decidedBy : Quantifier → Outcome → Bool
  | all, outcome => outcome == .fail
  | any, outcome => outcome == .pass

/-- The joint outcome when no usage decides it and the last one applied. -/
def undecided : Quantifier → Outcome
  | all => .pass
  | any => .fail

/--
The joint outcome of the usages that remain.  A usage to which the rule does not apply is passed
over, and when the last usages are such, the rule does not apply to all of them together.
-/
def joinFrom
    (quantifier : Quantifier)
    (outcome : ι → Outcome)
    (skipped : Bool) : List ι → Outcome
  | [] => if skipped then .skip else quantifier.undecided
  | usage :: usages =>
    if outcome usage = .skip then joinFrom quantifier outcome true usages
    else if quantifier.decidedBy (outcome usage) then outcome usage
    else joinFrom quantifier outcome false usages

/-- The joint outcome of a list of usages. -/
def join (quantifier : Quantifier) (outcome : ι → Outcome) (usages : List ι) : Outcome :=
  quantifier.joinFrom outcome false usages

/-- The usages up to the one that decides the joint outcome. -/
def consulted (quantifier : Quantifier) (outcome : ι → Outcome) : List ι → List ι
  | [] => []
  | usage :: usages =>
    usage ::
      if quantifier.decidedBy (outcome usage) then [] else consulted quantifier outcome usages

end Quantifier

/-- The joint outcome of an indicator on the usages of a pricing unit. -/
def DirectionIndicator.combine
    {ι : Type}
    (indicator : DirectionIndicator)
    (isInbound : ι → Bool)
    (outcome : ι → Outcome)
    (usages : List ι) : Outcome :=
  let outboundOutcome := Quantifier.any.join outcome (usages.filter fun usage => !isInbound usage)
  let inboundOutcome := Quantifier.any.join outcome (usages.filter isInbound)
  match indicator with
  | both => Quantifier.all.join outcome usages
  | either =>
    if outboundOutcome = .pass then .pass
    else if inboundOutcome = .skip then outboundOutcome
    else inboundOutcome
  | oneNotBoth =>
    if outboundOutcome = .skip ∨ inboundOutcome = .skip then .skip
    else if outboundOutcome = inboundOutcome then .fail
    else .pass
  | blank | outbound | inbound => .fail

/-- The usages whose outcomes `combine` asks for, in order. -/
def DirectionIndicator.consulted
    {ι : Type}
    (indicator : DirectionIndicator)
    (isInbound : ι → Bool)
    (outcome : ι → Outcome)
    (usages : List ι) : List ι :=
  let outboundUsages := usages.filter fun usage => !isInbound usage
  let inboundUsages := usages.filter isInbound
  match indicator with
  | both => Quantifier.all.consulted outcome usages
  | either =>
    Quantifier.any.consulted outcome outboundUsages ++
      if Quantifier.any.join outcome outboundUsages = .pass then []
      else Quantifier.any.consulted outcome inboundUsages
  | oneNotBoth =>
    Quantifier.any.consulted outcome outboundUsages ++
      Quantifier.any.consulted outcome inboundUsages
  | blank | outbound | inbound => []

end FlightRule
