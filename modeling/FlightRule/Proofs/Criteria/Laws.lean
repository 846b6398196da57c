import FlightRule.Proofs.Criteria.Equivalence

/-!
# Laws of the relations

Every relation between criteria is associative, so that a chain of one relation means the same
however it is bracketed (`meansSame_of_operands_eq`).  AND and AND/OR are commutative; they and OR
are idempotent; CONNECTING distributes over AND/OR.  These are laws of the lists of spans, and not
only of the question whether there is a span.  OR is not commutative, because it decides for its
left side where both find something.
-/

namespace FlightRule
namespace Criteria

variable
  {context : Context}
  {relation : Relation}
  {criteria other : Criteria}

/-! ## Laws -/

/--
Criteria mean the same if the same spans are among those that they find, the same conditions among
those that they join, and both or neither ask for a connection.
-/
theorem meansSame_of_same_members
    (spanIff : ∀ filters segments span,
      span ∈ criteria.spans filters context segments ↔
        span ∈ other.spans filters context segments)
    (conditionIff : ∀ condition,
      condition ∈ criteria.conditions ↔ condition ∈ other.conditions)
    (hasConnecting_eq : criteria.hasConnecting = other.hasConnecting) :
    criteria.MeansSame context other where
  spans_eq := fun filters segments =>
    (ascending_spans filters context segments criteria).ext
      (ascending_spans filters context segments other) (spanIff filters segments)
  matched_eq := fun filters segment => by
    rw [Bool.eq_iff_iff]
    simp only [List.any_eq_true, conditionIff]
  hasConnecting_eq := hasConnecting_eq

/-- Every relation is associative. -/
theorem meansSame_assoc
    (context : Context)
    (relation : Relation)
    (first second third : Criteria) :
    (combine relation (combine relation first second) third).MeansSame context
      (combine relation first (combine relation second third)) := by
  apply meansSame_of_same_members
  · intro filters segments span
    cases relation with
    | or => simp only [mem_spans_or, spans_or_eq_nil_iff, or_assoc, and_assoc, and_or_left]
    | andOr => simp only [mem_spans_andOr, or_assoc]
    | and =>
        simp only [mem_spans_and, ne_eq, spans_and_eq_nil_iff, not_or]
        grind
    | connecting =>
        simp only [mem_spans_connecting]
        constructor
        · rintro ⟨_, ⟨head, onFirst, middle, onSecond, adjoins, rfl⟩, last, onThird, follows, rfl⟩
          exact ⟨head, onFirst, _, ⟨middle, onSecond, last, onThird, follows, rfl⟩, adjoins, rfl⟩
        · rintro ⟨head, onFirst, _, ⟨middle, onSecond, last, onThird, follows, rfl⟩, adjoins, rfl⟩
          exact ⟨_, ⟨head, onFirst, middle, onSecond, adjoins, rfl⟩, last, onThird, follows, rfl⟩
  · simp [conditions]
  · simp only [hasConnecting]
    cases relation == .connecting <;> simp [Bool.or_assoc]

/-- AND and AND/OR are commutative. -/
theorem meansSame_comm
    (context : Context)
    (either : relation = .and ∨ relation = .andOr)
    (left right : Criteria) :
    (combine relation left right).MeansSame context (combine relation right left) := by
  apply meansSame_of_same_members
  · intro filters segments span
    rcases either with rfl | rfl
    · rw [mem_spans_and, mem_spans_and]
      exact and_congr and_comm or_comm
    · rw [mem_spans_andOr, mem_spans_andOr]
      exact or_comm
  · simp [conditions, or_comm]
  · simp only [hasConnecting, Bool.or_assoc, Bool.or_comm left.hasConnecting]

/-- Every relation but CONNECTING is idempotent. -/
theorem meansSame_self
    (context : Context)
    (notConnecting : relation ≠ .connecting)
    (criteria : Criteria) :
    (combine relation criteria criteria).MeansSame context criteria := by
  apply meansSame_of_same_members
  · intro filters segments span
    cases relation with
    | or => simp only [mem_spans_or, or_iff_left_iff_imp, and_imp, imp_self, implies_true]
    | andOr => rw [mem_spans_andOr, or_self]
    | and =>
        rw [mem_spans_and, and_self, or_self, and_iff_right_iff_imp]
        exact List.ne_nil_of_mem
    | connecting => exact absurd rfl notConnecting
  · simp [conditions]
  · simp [hasConnecting, notConnecting]

/-- CONNECTING distributes over an AND/OR on its left. -/
theorem meansSame_connecting_andOr_left (context : Context) (left right other : Criteria) :
    (combine .connecting (combine .andOr left right) other).MeansSame context
      (combine .andOr (combine .connecting left other) (combine .connecting right other)) := by
  apply meansSame_of_same_members
  · intro filters segments span
    simp only [mem_spans_andOr, mem_spans_connecting, or_and_right, exists_or]
  · intro condition
    simp only [conditions, List.mem_append]
    grind
  · simp [hasConnecting]

/-- CONNECTING distributes over an AND/OR on its right. -/
theorem meansSame_connecting_andOr_right (context : Context) (left right other : Criteria) :
    (combine .connecting other (combine .andOr left right)).MeansSame context
      (combine .andOr (combine .connecting other left) (combine .connecting other right)) := by
  apply meansSame_of_same_members
  · intro filters segments span
    simp only [mem_spans_andOr, mem_spans_connecting, or_and_right, exists_or, and_or_left]
  · intro condition
    simp only [conditions, List.mem_append]
    grind
  · simp [hasConnecting]

/-! ## Chains of one relation -/

/-- The criteria that a chain of one relation joins, from left to right; brackets do not count. -/
def operands (relation : Relation) : Criteria → List Criteria
  | leaf condition => [leaf condition]
  | combine joint left right =>
      if joint = relation then left.operands relation ++ right.operands relation
      else [combine joint left right]

theorem operands_combine_self (left right : Criteria) :
    (combine relation left right).operands relation =
      left.operands relation ++ right.operands relation :=
  if_pos rfl

/-- A property that splits over a relation holds of a chain when it holds of one of its operands. -/
theorem iff_exists_operand
    (holds : Criteria → Prop)
    (either : ∀ left right, holds (combine relation left right) ↔ holds left ∨ holds right)
    (criteria : Criteria) :
    holds criteria ↔ ∃ operand ∈ criteria.operands relation, holds operand := by
  induction criteria with
  | leaf condition => simp only [operands, List.mem_singleton, exists_eq_left]
  | combine joint left right leftIff rightIff =>
      by_cases joined : joint = relation
      · subst joined
        rw [operands_combine_self, either, leftIff, rightIff]
        simp only [List.mem_append, or_and_right, exists_or]
      · simp only [operands, if_neg joined, List.mem_singleton, exists_eq_left]

/-- The chain of one relation whose brackets all close at its end. -/
def joinBy (relation : Relation) : Criteria → List Criteria → Criteria
  | first, [] => first
  | first, next :: rest => combine relation first (joinBy relation next rest)

theorem operands_joinBy_leaf (relation : Relation) (first : Condition) (rest : List Condition) :
    (joinBy relation (leaf first) (rest.map leaf)).operands relation =
      (first :: rest).map leaf := by
  induction rest generalizing first with
  | nil => rfl
  | cons next others inductionHypothesis =>
      rw [List.map_cons, joinBy, operands_combine_self, inductionHypothesis]
      rfl

/-- Two chains are joined by moving the brackets of the first one to its end, one by one. -/
theorem meansSame_joinBy_append
    (context : Context)
    (relation : Relation)
    (first next : Criteria)
    (rest others : List Criteria) :
    (combine relation (joinBy relation first rest) (joinBy relation next others)).MeansSame context
      (joinBy relation first (rest ++ next :: others)) := by
  induction rest generalizing first with
  | nil => exact .refl context _
  | cons head tail inductionHypothesis =>
      exact (meansSame_assoc context relation first _ _).trans
        ((MeansSame.refl context first).combine relation (inductionHypothesis head))

/-- Criteria mean the same as the chain of their operands with all brackets at the end. -/
theorem exists_joinBy_operands (relation : Relation) (criteria : Criteria) :
    ∃ first rest, criteria.operands relation = first :: rest ∧
      ∀ context, criteria.MeansSame context (joinBy relation first rest) := by
  induction criteria with
  | leaf condition => exact ⟨leaf condition, [], rfl, fun context => .refl context _⟩
  | combine joint left right leftChain rightChain =>
      by_cases joined : joint = relation
      · obtain ⟨first, rest, left_eq, leftSame⟩ := leftChain
        obtain ⟨next, others, right_eq, rightSame⟩ := rightChain
        refine ⟨first, rest ++ next :: others, ?_, fun context => ?_⟩
        · rw [joined, operands_combine_self, left_eq, right_eq, List.cons_append]
        · rw [joined]
          exact ((leftSame context).combine relation (rightSame context)).trans
            (meansSame_joinBy_append context relation first next rest others)
      · exact ⟨combine joint left right, [], if_neg joined, fun context => .refl context _⟩

/-- A chain of one relation means the same however it is bracketed. -/
theorem meansSame_of_operands_eq
    (context : Context)
    (operands_eq : criteria.operands relation = other.operands relation) :
    criteria.MeansSame context other := by
  obtain ⟨first, rest, own_eq, same⟩ := exists_joinBy_operands relation criteria
  obtain ⟨otherFirst, otherRest, other_eq, otherSame⟩ := exists_joinBy_operands relation other
  rw [own_eq, other_eq, List.cons.injEq] at operands_eq
  obtain ⟨rfl, rfl⟩ := operands_eq
  exact (same context).trans (otherSame context).symm

/--
Criteria can be rewritten by the laws of their relations.  Every relation is associative, and a
chain of one relation can be bracketed in any way.  AND and AND/OR are commutative; they and OR are
idempotent; and CONNECTING distributes over AND/OR on both sides.
-/
theorem interchangeable_by_laws :
    (∀ relation first second third,
      (combine relation (combine relation first second) third).Interchangeable
        (combine relation first (combine relation second third))) ∧
    (∀ relation (criteria other : Criteria),
      criteria.operands relation = other.operands relation → criteria.Interchangeable other) ∧
    (∀ relation left right, relation = .and ∨ relation = .andOr →
      (combine relation left right).Interchangeable (combine relation right left)) ∧
    (∀ relation criteria, relation ≠ .connecting →
      (combine relation criteria criteria).Interchangeable criteria) ∧
    (∀ left right other,
      (combine .connecting (combine .andOr left right) other).Interchangeable
        (combine .andOr (combine .connecting left other) (combine .connecting right other))) ∧
    ∀ left right other,
      (combine .connecting other (combine .andOr left right)).Interchangeable
        (combine .andOr (combine .connecting other left) (combine .connecting other right)) := by
  refine ⟨fun relation first second third => ?_, fun relation criteria other operands_eq => ?_,
    fun relation left right either => ?_, fun relation criteria notConnecting => ?_,
    fun left right other => ?_, fun left right other => ?_⟩
  · exact interchangeable_of_meansSame fun context => meansSame_assoc context relation _ _ _
  · exact interchangeable_of_meansSame fun context => meansSame_of_operands_eq context operands_eq
  · exact interchangeable_of_meansSame fun context => meansSame_comm context either _ _
  · exact interchangeable_of_meansSame fun context => meansSame_self context notConnecting _
  · exact interchangeable_of_meansSame fun context => meansSame_connecting_andOr_left context _ _ _
  · exact interchangeable_of_meansSame fun context => meansSame_connecting_andOr_right context _ _ _

/-- Four flights connect with brackets around pairs as with brackets from the left. -/
theorem spans_of_chain_in_pairs :
    let carried (code : String) : Criteria := .leaf (.flight (.literal code .any))
    let pairs := combine .connecting (combine .connecting (carried "DL") (carried "AA"))
      (combine .connecting (carried "BA") (carried "UA"))
    let fromLeft := combine .connecting
      (combine .connecting (combine .connecting (carried "DL") (carried "AA")) (carried "BA"))
      (carried "UA")
    let both := combine .and (carried "DL") (carried "AA")
    let segments : List Segment :=
      [.air "LH" 1 default default, .air "DL" 2 default default, .air "AA" 3 default default,
        .air "BA" 4 default default, .air "UA" 5 default default]
    pairs.operands .connecting = fromLeft.operands .connecting ∧
      pairs.spans [] {} segments = [⟨1, 4⟩] ∧ fromLeft.spans [] {} segments = [⟨1, 4⟩] ∧
      both.spans [] {} segments =
        (combine .and (carried "AA") (carried "DL")).spans [] {} segments ∧
      (combine .and both both).spans [] {} segments = both.spans [] {} segments := by
  intro carried pairs fromLeft both segments
  have operands_eq : pairs.operands .connecting = fromLeft.operands .connecting := by decide
  have found : pairs.spans [] {} segments = [⟨1, 4⟩] := by decide
  obtain ⟨_, bracketed, commutes, idempotent, _⟩ := interchangeable_by_laws
  have sameSpans := (bracketed .connecting pairs fromLeft operands_eq).spans_eq [] {} segments
  exact ⟨operands_eq, found, sameSpans.symm.trans found,
    (commutes .and (carried "DL") (carried "AA") (.inl rfl)).spans_eq [] {} segments,
    (idempotent .and both (by decide)).spans_eq [] {} segments⟩

/-- OR finds what its left side finds, so that its sides cannot be exchanged. -/
example :
    let carried (code : String) : Criteria := .leaf (.flight (.literal code .any))
    let segments : List Segment := [.air "DL" 1 default default, .air "AA" 2 default default]
    (combine .or (carried "DL") (carried "AA")).spans [] {} segments = [⟨0, 0⟩] ∧
      (combine .or (carried "AA") (carried "DL")).spans [] {} segments = [⟨1, 1⟩] := by
  decide

end Criteria
end FlightRule
