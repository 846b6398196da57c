import FlightRule.Record.Coding

/-!
# Outcomes

The outcomes of a rule check, and how the search for a witness becomes an outcome.
-/

namespace FlightRule

/-- The outcome of a rule check. -/
inductive Outcome where
  | pass
  | fail
  /-- The rule does not apply. -/
  | skip
  /-- The rule is passed unless the check of the pricing unit says otherwise. -/
  | softPass
  | stop
deriving DecidableEq, Repr

namespace Outcome

/-- The outcome of the opposite rule: pass and fail are exchanged. -/
def negate : Outcome → Outcome
  | pass => fail
  | fail => pass
  | skip => skip
  | softPass => softPass
  | stop => stop

@[simp] theorem negate_negate (outcome : Outcome) : outcome.negate.negate = outcome := by
  cases outcome <;> rfl

/-- The word for an outcome in messages. -/
def word : Outcome → String
  | pass => "PASS"
  | fail => "FAIL"
  | skip => "SKIP"
  | softPass => "SOFTPASS"
  | stop => "STOP"

end Outcome

/-- Whether a rule's requirement is met by the segments it looks at. -/
inductive Witness where
  | found
  | absent
deriving DecidableEq, Repr

namespace Witness

/-- Found exactly when the test holds. -/
def ofBool (found : Bool) : Witness :=
  if found then .found else .absent

/-- The opposite finding. -/
def flip : Witness → Witness
  | found => absent
  | absent => found

/-- A rule passes when its witness is found, a negative rule when it is absent. -/
def outcome (application : Application) : Witness → Outcome
  | found => if application.isNegative then .fail else .pass
  | absent => if application.isNegative then .pass else .fail

/-- The outcome of a rule with the segments it looks at; without any, it does not apply. -/
def outcomeInScope (application : Application) (finding : Option Witness) : Outcome :=
  finding.elim .skip (outcome application)

end Witness

end FlightRule
