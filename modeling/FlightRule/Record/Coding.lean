/-!
# Codings of rule fields

The closed sets of values that the fields of a flight application rule are coded with.  A blank
value says that the field does not restrict the rule.
-/

namespace FlightRule

/-- Whether the flights that a rule describes have to be used or may not be used. -/
inductive Application where
  /-- Only equipment, weekdays and the shape of the journey are checked. -/
  | blank
  | must
  | mustNot
  /-- A flight of a range of flight numbers has to be used. -/
  | mustRange
  /-- No flight of a range of flight numbers may be used. -/
  | mustNotRange
deriving DecidableEq, Repr

namespace Application

/-- The described flights may not be used. -/
def isNegative : Application → Bool
  | mustNot | mustNotRange => true
  | blank | must | mustRange => false

/-- The first two slots describe a range of flight numbers. -/
def isRange : Application → Bool
  | mustRange | mustNotRange => true
  | blank | must | mustNot => false

end Application

/-- How the conditions of two slots are joined. -/
inductive Relation where
  | and
  | or
  | andOr
  /-- The second condition holds on the segment after the first. -/
  | connecting
deriving DecidableEq, Repr

/-- Whether something is admitted or excluded. -/
inductive Validity where
  | blank
  | valid
  | invalid
deriving DecidableEq, Repr

/-- How the places of a rule restrict the journey. -/
inductive LocationUse where
  | blank
  /-- Between two places, or inside one place when both are the same. -/
  | betweenAnd
  /-- By way of the places. -/
  | via
deriving DecidableEq, Repr

/-- Whether the journey has to pass a place or may not pass it. -/
inductive ViaPolarity where
  | blank
  | must
  | mustNot
deriving DecidableEq, Repr

/-- Which stops count when the journey passes a place. -/
inductive HiddenStops where
  /-- Connections and hidden stops. -/
  | blank
  /-- Hidden stops only. -/
  | yes
  /-- Connections only. -/
  | no
deriving DecidableEq, Repr

/-- The parts of the journey that a rule applies to. -/
inductive DirectionIndicator where
  | blank
  | outbound
  | inbound
  /-- Outbound or inbound, or both. -/
  | either
  /-- Outbound or inbound, but not both. -/
  | oneNotBoth
  | both
deriving DecidableEq, Repr

/-- The indicator can only be judged on a whole pricing unit. -/
def DirectionIndicator.needsUnit : DirectionIndicator → Bool
  | either | oneNotBoth | both => true
  | blank | outbound | inbound => false

/-- Whether the data of a rule are available. -/
inductive Availability where
  | available
  | dataUnavailable
  | textOnly
deriving DecidableEq, Repr

end FlightRule
