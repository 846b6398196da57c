/-!
# Finite ordered sets

An ascending list represents a finite set: each member once, in increasing order.  The main
statements are `Ordered.mem_ofList` (collecting a list into an ascending one keeps its members),
`Ordered.ascending_ofList`, and `Ordered.Ascending.ext` (an ascending list is determined by its
members).  A set is the ascending list of its members, so two sets with the same members are equal.
-/

namespace FlightRule

/-! ## Ascending lists -/

namespace Ordered

variable {α : Type} [Ord α]

/-- Every item stands strictly below all items after it. -/
def Ascending (items : List α) : Prop :=
  items.Pairwise fun first second => compare first second = .lt

instance (items : List α) : Decidable (Ascending items) :=
  inferInstanceAs (Decidable (items.Pairwise _))

theorem ascending_nil : Ascending ([] : List α) := .nil

/-- Put an item at its place among ascending items, unless it is there already. -/
def insert (item : α) : List α → List α
  | [] => [item]
  | head :: tail =>
    match compare item head with
    | .lt => item :: head :: tail
    | .eq => head :: tail
    | .gt => head :: insert item tail

/-- The members of a list, each once, in increasing order. -/
def ofList (items : List α) : List α :=
  items.foldr insert []

@[simp] theorem ofList_nil : ofList ([] : List α) = [] := rfl

@[simp] theorem ofList_cons (item : α) (items : List α) :
    ofList (item :: items) = insert item (ofList items) := rfl

variable [Std.LawfulEqOrd α]

@[simp] theorem mem_insert {item other : α} {items : List α} :
    other ∈ insert item items ↔ other = item ∨ other ∈ items := by
  induction items with
  | nil => simp [insert]
  | cons head tail inductionHypothesis =>
    rw [insert]
    split
    next => simp
    next equal =>
      rw [Std.LawfulEqOrd.eq_of_compare equal]
      simp
    next =>
      simp only [List.mem_cons, inductionHypothesis]
      exact or_left_comm

/-- Collecting a list keeps its members. -/
@[simp] theorem mem_ofList {item : α} {items : List α} :
    item ∈ ofList items ↔ item ∈ items := by
  induction items with
  | nil => simp
  | cons head tail inductionHypothesis => simp [inductionHypothesis]

variable [Std.TransOrd α]

theorem ascending_insert
    (item : α)
    {items : List α}
    (ascending : Ascending items) :
    Ascending (insert item items) := by
  induction items with
  | nil => simp [insert, Ascending]
  | cons head tail inductionHypothesis =>
    obtain ⟨headBelow, tailAscending⟩ := List.pairwise_cons.1 ascending
    rw [insert]
    split
    next below =>
      refine List.pairwise_cons.2 ⟨fun other member => ?_, ascending⟩
      rcases List.mem_cons.1 member with rfl | member
      · exact below
      · exact Std.TransCmp.lt_trans below (headBelow other member)
    next => exact ascending
    next above =>
      refine List.pairwise_cons.2
        ⟨fun other member => ?_, inductionHypothesis tailAscending⟩
      rcases mem_insert.1 member with rfl | member
      · exact Std.OrientedCmp.lt_of_gt above
      · exact headBelow other member

/-- Collecting a list puts it in order. -/
theorem ascending_ofList (items : List α) : Ascending (ofList items) := by
  induction items with
  | nil => simp [Ascending]
  | cons head tail inductionHypothesis => exact ascending_insert head inductionHypothesis

/-- Two ascending lists with the same members are equal. -/
theorem Ascending.ext
    {left right : List α}
    (leftAscending : Ascending left)
    (rightAscending : Ascending right)
    (sameMembers : ∀ item, item ∈ left ↔ item ∈ right) :
    left = right := by
  induction left generalizing right with
  | nil =>
    cases right with
    | nil => rfl
    | cons head tail => simpa using sameMembers head
  | cons first rest inductionHypothesis =>
    obtain ⟨firstBelow, restAscending⟩ := List.pairwise_cons.1 leftAscending
    cases right with
    | nil => simpa using sameMembers first
    | cons head tail =>
      obtain ⟨headBelow, tailAscending⟩ := List.pairwise_cons.1 rightAscending
      have first_eq : first = head := by
        rcases List.mem_cons.1 ((sameMembers first).1 List.mem_cons_self) with equal | inTail
        · exact equal
        · rcases List.mem_cons.1 ((sameMembers head).2 List.mem_cons_self) with equal | inRest
          · exact equal.symm
          · have cycle := Std.TransCmp.lt_trans (firstBelow head inRest) (headBelow first inTail)
            simp [Std.ReflCmp.compare_self] at cycle
      subst first_eq
      refine congrArg _ (inductionHypothesis restAscending tailAscending fun item => ?_)
      have membership := sameMembers item
      simp only [List.mem_cons] at membership
      constructor
      · intro inRest
        rcases membership.1 (.inr inRest) with rfl | inTail
        · have self := firstBelow _ inRest
          simp [Std.ReflCmp.compare_self] at self
        · exact inTail
      · intro inTail
        rcases membership.2 (.inr inTail) with rfl | inRest
        · have self := headBelow _ inTail
          simp [Std.ReflCmp.compare_self] at self
        · exact inRest

end Ordered

/-! ## Sets -/

/-- A finite set, held as its members in increasing order. -/
structure OrderedSet (α : Type) [Ord α] where
  /-- The members in increasing order. -/
  toList : List α
  /-- Each member occurs once and the members increase. -/
  ascending : Ordered.Ascending toList

namespace OrderedSet

variable {α : Type} [Ord α]

instance [DecidableEq α] : DecidableEq (OrderedSet α) := fun left right =>
  if equal : left.toList = right.toList then
    isTrue (by cases left; cases right; simp_all)
  else
    isFalse fun same => equal (congrArg toList same)

/-- The set without members. -/
def empty : OrderedSet α := ⟨[], Ordered.ascending_nil⟩

instance : Inhabited (OrderedSet α) := ⟨empty⟩

/-- The item is a member. -/
def contains [BEq α] (set : OrderedSet α) (item : α) : Bool :=
  set.toList.contains item

variable [Std.TransOrd α] [Std.LawfulEqOrd α]

/-- Sets with the same members are equal. -/
@[ext] theorem ext
    {left right : OrderedSet α}
    (sameMembers : ∀ item, item ∈ left.toList ↔ item ∈ right.toList) :
    left = right := by
  obtain ⟨leftItems, leftAscending⟩ := left
  obtain ⟨rightItems, rightAscending⟩ := right
  rw [OrderedSet.mk.injEq]
  exact leftAscending.ext rightAscending sameMembers

/-- The set of the members of a list. -/
def ofList (items : List α) : OrderedSet α :=
  ⟨Ordered.ofList items, Ordered.ascending_ofList items⟩

/-- The set with one more member. -/
def insert (set : OrderedSet α) (item : α) : OrderedSet α :=
  ⟨Ordered.insert item set.toList, Ordered.ascending_insert item set.ascending⟩

@[simp] theorem mem_toList_insert {set : OrderedSet α} {item other : α} :
    other ∈ (set.insert item).toList ↔ other = item ∨ other ∈ set.toList :=
  Ordered.mem_insert

@[simp] theorem mem_toList_ofList {items : List α} {item : α} :
    item ∈ (ofList items).toList ↔ item ∈ items :=
  Ordered.mem_ofList

end OrderedSet

end FlightRule
