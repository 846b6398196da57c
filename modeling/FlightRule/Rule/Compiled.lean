import FlightRule.Geo.Scope
import FlightRule.Requirement
import FlightRule.Rule.Issue
import FlightRule.Outcome

/-!
# Compiled rules

A compiled rule carries everything that its evaluation needs from the record and the reference
data, together with the issues met on the way.
-/

namespace FlightRule

/-- What a caller uses a rule for. -/
inductive RuleUse where
  /-- The rule is checked for its own sake. -/
  | primary
  /-- Something else applies if the rule passes. -/
  | ifQualifier
  /-- Something else applies if the rule does not pass. -/
  | ifNotQualifier
deriving DecidableEq, Repr

/-- Something else depends on whether the rule passes. -/
def RuleUse.isQualifier : RuleUse → Bool
  | primary => false
  | ifQualifier | ifNotQualifier => true

/-- What a rule asks for. -/
inductive Demand where
  /-- Nothing: the rule has a fixed outcome. -/
  | fixed (outcome : Outcome)
  | requires (requirement : Requirement)
deriving DecidableEq, Repr

/-- Where on the journey a rule applies. -/
inductive Reach where
  | within (scope : GeoScope)
  /-- Nowhere, because a geographic item could not be resolved. -/
  | nowhere
deriving Repr

/-- A rule that is ready for evaluation. -/
structure CompiledRule where
  vendor : String
  itemNo : UInt32
  /-- A digest of the record. -/
  fingerprint : String
  use : RuleUse
  application : Application
  direction : DirectionIndicator
  demand : Demand
  reach : Reach
  issues : List Issue
deriving Repr

/-- The requirement of a rule without a fixed outcome. -/
def CompiledRule.requirement? (rule : CompiledRule) : Option Requirement :=
  match rule.demand with
  | .requires requirement => some requirement
  | .fixed _ => none

theorem CompiledRule.mem_requirement?_iff {rule : CompiledRule} {requirement : Requirement} :
    requirement ∈ rule.requirement? ↔ rule.demand = .requires requirement := by
  unfold requirement?
  cases rule.demand <;> simp

end FlightRule
