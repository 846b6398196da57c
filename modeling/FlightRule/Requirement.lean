import FlightRule.Record.Rule
import FlightRule.Ordered.Set
import FlightRule.Text.Basic
import FlightRule.Text.Upper
import FlightRule.Travel
import FlightRule.Criteria

/-!
# Requirements on a journey

The shape of a journey is decided by all its flown segments together: how often it stops, whether
its flight number changes, how many carriers sell it, and whether it repeats a flight.

A requirement joins what a rule asks of single flights, of the segments besides their flights, and
of the shape of the whole journey.  `Requirement.isMet` says whether a list of segments meets it,
and `Requirement.spans` where its criteria find what they look for.
-/

namespace FlightRule

/-! ## Shapes of a journey -/

/-- The shapes that a rule can admit or exclude. -/
inductive ShapeKind where
  /-- One segment without any stop. -/
  | nonStop
  /-- One flight throughout. -/
  | direct
  /-- One stop. -/
  | oneStop
  /-- More than one stop. -/
  | multiStop
  /-- Several segments, sold by one carrier. -/
  | online
  /-- Several selling carriers. -/
  | interline
  /-- A flight that is used twice, in the other part of the unit if that has flights. -/
  | sameFlight
deriving DecidableEq, Repr

namespace Segment

/-- Two segments with the same flight: the same selling carrier and flight number. -/
def sameFlight (left right : Segment) : Bool :=
  Text.alike left.carrier right.carrier && left.flightNumber == right.flightNumber

/-- Two segments of the list, in this order, have the same flight. -/
def repeatsFlight : List Segment → Bool
  | [] => false
  | segment :: segments => segments.any segment.sameFlight || repeatsFlight segments

/-- The selling carriers in upper case, each once. -/
def carriers (segments : List Segment) : List String :=
  Ordered.ofList (segments.map fun segment => Text.upper segment.carrier)

/-- The number of stops: the connections, and the hidden stops if they count. -/
def stopCount (segments : List Segment) (countHidden : Bool) : Nat :=
  (segments.length - 1) +
    if countHidden then (segments.flatMap Segment.hiddenStops).length else 0

end Segment

/-- The segments of a journey, with the segments of the other part of the unit, have the shape. -/
def ShapeKind.holds
    (kind : ShapeKind)
    (segments opposite : List Segment)
    (countHidden : Bool) : Bool :=
  match kind with
  | nonStop => segments.length == 1 && Segment.stopCount segments countHidden == 0
  | direct => segments.head?.any fun first => segments.all (·.sameFlight first)
  | oneStop => Segment.stopCount segments countHidden == 1
  | multiStop => decide (1 < Segment.stopCount segments countHidden)
  | online => decide (1 < segments.length) && (Segment.carriers segments).length == 1
  | interline => decide (1 < (Segment.carriers segments).length)
  | sameFlight =>
    let flown := opposite.filter Segment.isFlown
    if flown.isEmpty then Segment.repeatsFlight segments
    else segments.any fun segment => flown.any segment.sameFlight

/-- The shapes that a journey must have one of, and those that it may not have. -/
structure ShapeConstraint where
  valid : List ShapeKind
  invalid : List ShapeKind
  /-- Hidden stops count as stops. -/
  countHidden : Bool
deriving DecidableEq, Repr

namespace ShapeConstraint

/-- The shapes of a record's flags with a given validity. -/
def kinds (flags : ShapeFlags) (validity : Validity) : List ShapeKind :=
  [(ShapeKind.nonStop, flags.nonstop), (.direct, flags.direct), (.multiStop, flags.multistop),
    (.oneStop, flags.onestop), (.online, flags.online), (.interline, flags.interline),
    (.sameFlight, flags.sameFlight)].filterMap fun (kind, flag) =>
      if flag = validity then some kind else none

/-- The constraint that a record's flags stand for; none when all flags are blank. -/
def ofFlags (flags : ShapeFlags) (hidden : HiddenStops) : Option ShapeConstraint :=
  if flags.isBlank then none
  else some ⟨kinds flags .valid, kinds flags .invalid, hidden != .no⟩

/-- The journey has one of the valid shapes, if any are listed, and none of the invalid ones. -/
def holds (constraint : ShapeConstraint) (segments opposite : List Segment) : Bool :=
  (constraint.valid.isEmpty ||
      constraint.valid.any (·.holds segments opposite constraint.countHidden)) &&
    constraint.invalid.all fun kind => !kind.holds segments opposite constraint.countHidden

end ShapeConstraint

/-! ## Requirements -/

/-- What a rule asks of a journey. -/
structure Requirement where
  /-- What is asked of the flights; nothing for a rule without application. -/
  criteria : Option Criteria := none
  /-- What is asked of segments besides their flights. -/
  filters : List SegmentFilter := []
  shape : Option ShapeConstraint := none
deriving DecidableEq, Repr

namespace Requirement

/-- The spans that the criteria find, if there are criteria. -/
def spans (requirement : Requirement) (context : Context) (segments : List Segment) : List Span :=
  requirement.criteria.elim [] fun criteria =>
    criteria.spans requirement.filters context segments

/--
The criteria are met: they find a span, and unless some of their conditions hold on neighbouring
segments, they speak about every flown segment.  Without criteria, every flown segment passes the
filters.
-/
def criteriaMet
    (requirement : Requirement)
    (context : Context)
    (segments : List Segment) : Bool :=
  match requirement.criteria with
  | some criteria =>
    !(criteria.spans requirement.filters context segments).isEmpty &&
      (criteria.hasConnecting || criteria.covers requirement.filters context segments)
  | none =>
    (segments.filter Segment.isFlown).all fun segment =>
      requirement.filters.all (·.accepts segment)

/-- The flown segments have the required shape. -/
def shapeMet (requirement : Requirement) (segments opposite : List Segment) : Bool :=
  requirement.shape.all (·.holds (segments.filter Segment.isFlown) opposite)

/-- The segments meet the requirement, given those of the other part of the pricing unit. -/
def isMet
    (requirement : Requirement)
    (context : Context)
    (segments opposite : List Segment) : Bool :=
  requirement.criteriaMet context segments && requirement.shapeMet segments opposite

end Requirement

end FlightRule
