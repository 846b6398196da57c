import Mathlib.Logic.Relation
import FlightRule.Context

/-!
# Zones

The basic matchers are those of airports, cities, nations and areas.  A zone stands for the basic
matchers inside it, at whatever depth they are found
(`PlaceMatcher.accepts_iff_exists_mem_basics`), so that a matcher accepts no less than another one
whose basic matchers it has all (`PlaceMatcher.accepts_of_basics_subset`).  Flattening, reordering
and repeating members keeps the basic matchers, and leads from a zone to any other one with the
same basic matchers (`PlaceMatcher.rearranged_iff`).
-/

namespace FlightRule
namespace PlaceMatcher

variable
  {matcher other part : PlaceMatcher}
  {members others : List PlaceMatcher}
  {place : Location}

/-! ## Basic matchers -/

/-- The matcher is that of an airport, a city, a nation or an area, and no zone. -/
def isBasic : PlaceMatcher → Bool
  | zone _ => false
  | _ => true

/-- Induction on matchers: a zone may use what is known of each of its members. -/
@[elab_as_elim]
theorem induction_on_members
    {motive : PlaceMatcher → Prop}
    (matcher : PlaceMatcher)
    (basic : ∀ matcher, matcher.isBasic = true → motive matcher)
    (zone : ∀ members, (∀ member ∈ members, motive member) → motive (zone members)) :
    motive matcher :=
  match matcher with
  | airport code => basic (airport code) rfl
  | city code => basic (city code) rfl
  | nation code => basic (nation code) rfl
  | area code => basic (area code) rfl
  | .zone members => zone members fun member _ => induction_on_members member basic zone

/-- One matcher is found inside another one, itself included. -/
inductive OccursIn (part : PlaceMatcher) : PlaceMatcher → Prop
  | self : OccursIn part part
  | inside
      {members : List PlaceMatcher}
      {member : PlaceMatcher}
      (isMember : member ∈ members)
      (occurs : OccursIn part member) : OccursIn part (zone members)

theorem occursIn_iff_of_isBasic (basic : matcher.isBasic = true) :
    part.OccursIn matcher ↔ part = matcher := by
  constructor
  · intro occurs
    cases occurs with
    | self => rfl
    | inside isMember occurs => cases basic
  · rintro rfl
    exact .self

/-- A basic matcher occurs in a zone when it occurs in a member. -/
theorem occursIn_zone_iff_of_isBasic (basic : part.isBasic = true) :
    part.OccursIn (zone members) ↔ ∃ member ∈ members, part.OccursIn member := by
  constructor
  · intro occurs
    cases occurs with
    | self => cases basic
    | inside isMember occurs => exact ⟨_, isMember, occurs⟩
  · rintro ⟨member, isMember, occurs⟩
    exact .inside isMember occurs

mutual

/-- The basic matchers inside a matcher, from left to right. -/
def basics : PlaceMatcher → List PlaceMatcher
  | zone members => membersBasics members
  | matcher => [matcher]
termination_by structural matcher => matcher

/-- The basic matchers inside the matchers of a list. -/
def membersBasics : List PlaceMatcher → List PlaceMatcher
  | [] => []
  | member :: members => member.basics ++ membersBasics members
termination_by structural members => members

end

theorem membersBasics_eq_flatMap (members : List PlaceMatcher) :
    membersBasics members = members.flatMap basics := by
  induction members with
  | nil => rfl
  | cons member members inductionHypothesis =>
      rw [membersBasics, List.flatMap_cons, inductionHypothesis]

/-- The basic matchers of a zone are those of its members. -/
@[simp] theorem basics_zone (members : List PlaceMatcher) :
    (zone members).basics = members.flatMap basics := by
  rw [basics, membersBasics_eq_flatMap]

theorem basics_of_isBasic (basic : matcher.isBasic = true) : matcher.basics = [matcher] := by
  cases matcher with
  | zone members => cases basic
  | airport code | city code | nation code | area code => rfl

/-- The basic matchers of a matcher are those that occur in it. -/
theorem mem_basics_iff : part ∈ matcher.basics ↔ part.isBasic = true ∧ part.OccursIn matcher := by
  induction matcher using induction_on_members with
  | basic matcher basic =>
      rw [basics_of_isBasic basic, List.mem_singleton, occursIn_iff_of_isBasic basic,
        iff_and_self]
      rintro rfl
      exact basic
  | zone members membersIff =>
      rw [basics_zone, List.mem_flatMap]
      constructor
      · rintro ⟨member, isMember, found⟩
        obtain ⟨basic, occurs⟩ := (membersIff member isMember).1 found
        exact ⟨basic, .inside isMember occurs⟩
      · rintro ⟨basic, occurs⟩
        obtain ⟨member, isMember, occurs⟩ := (occursIn_zone_iff_of_isBasic basic).1 occurs
        exact ⟨member, isMember, (membersIff member isMember).2 ⟨basic, occurs⟩⟩

/-! ## Places -/

/-- The matcher has the code of a place at its own level, up to letter case; a zone has none. -/
inductive HasCodeOf : PlaceMatcher → Location → Prop
  | airport
      {code : String}
      {place : Location}
      (same : Text.alike place.airport code = true) : HasCodeOf (airport code) place
  | city
      {code : String}
      {place : Location}
      (same : Text.alike place.city code = true) : HasCodeOf (city code) place
  | nation
      {code : String}
      {place : Location}
      (same : Text.alike place.nation code = true) : HasCodeOf (nation code) place
  | area
      {code : String}
      {place : Location}
      (same : Text.alike place.area code = true) : HasCodeOf (area code) place

/-- A basic matcher accepts a place exactly if it has its code. -/
theorem hasCodeOf_iff :
    matcher.HasCodeOf place ↔ matcher.isBasic = true ∧ matcher.accepts place = true := by
  constructor
  · rintro (same | same | same | same) <;> exact ⟨rfl, same⟩
  · rintro ⟨basic, accepted⟩
    cases matcher with
    | airport code => exact .airport accepted
    | city code => exact .city accepted
    | nation code => exact .nation accepted
    | area code => exact .area accepted
    | zone members => cases basic

/-- A matcher accepts the places that one of the basic matchers inside it accepts. -/
theorem accepts_iff_exists_mem_basics :
    matcher.accepts place = true ↔ ∃ basic ∈ matcher.basics, basic.accepts place = true := by
  induction matcher using induction_on_members with
  | basic matcher basic => simp only [basics_of_isBasic basic, List.mem_singleton, exists_eq_left]
  | zone members membersIff =>
      rw [accepts_zone, List.any_eq_true, basics_zone]
      constructor
      · rintro ⟨member, isMember, accepted⟩
        obtain ⟨basic, found, basicAccepts⟩ := (membersIff member isMember).1 accepted
        exact ⟨basic, List.mem_flatMap.2 ⟨member, isMember, found⟩, basicAccepts⟩
      · rintro ⟨basic, found, basicAccepts⟩
        obtain ⟨member, isMember, found⟩ := List.mem_flatMap.1 found
        exact ⟨member, isMember, (membersIff member isMember).2 ⟨basic, found, basicAccepts⟩⟩

/-- Zones that hold nothing but zones accept no place. -/
example (place : Location) : (zone [zone [], zone [zone []]]).accepts place = false := rfl

/-- A matcher accepts no less than another one whose basic matchers it has all. -/
theorem accepts_of_basics_subset
    (subset : matcher.basics ⊆ other.basics)
    (accepted : matcher.accepts place = true) :
    other.accepts place = true := by
  obtain ⟨basic, found, basicAccepts⟩ := accepts_iff_exists_mem_basics.1 accepted
  exact accepts_iff_exists_mem_basics.2 ⟨basic, subset found, basicAccepts⟩

/-! ## Changes of members -/

/-- A change of the members of one zone, which may stand inside other zones. -/
inductive InOneZone (change : List PlaceMatcher → List PlaceMatcher → Prop) :
    PlaceMatcher → PlaceMatcher → Prop
  | here
      {members others : List PlaceMatcher}
      (changed : change members others) : InOneZone change (zone members) (zone others)
  | inside
      (before after : List PlaceMatcher)
      {member other : PlaceMatcher}
      (changed : InOneZone change member other) :
      InOneZone change (zone (before ++ member :: after)) (zone (before ++ other :: after))

namespace InOneZone

variable {change : List PlaceMatcher → List PlaceMatcher → Prop}

theorem swap (changed : InOneZone change matcher other) :
    InOneZone (Function.swap change) other matcher := by
  induction changed with
  | here changed => exact .here changed
  | inside before after changed inductionHypothesis =>
      exact .inside before after inductionHypothesis

/-- A change that keeps the basic matchers inside the members keeps those of the zones around. -/
theorem basics_subset
    (keeps : ∀ members others, change members others →
      members.flatMap basics ⊆ others.flatMap basics)
    (changed : InOneZone change matcher other) :
    matcher.basics ⊆ other.basics := by
  induction changed with
  | here changed =>
      rw [basics_zone, basics_zone]
      exact keeps _ _ changed
  | inside before after changed inductionHypothesis =>
      intro basic
      simp only [basics_zone, List.flatMap_append, List.flatMap_cons, List.mem_append]
      exact Or.imp_right (Or.imp_left (@inductionHypothesis basic))

end InOneZone

/-- A change of the members of a zone that leaves the basic matchers inside it. -/
inductive RearrangesMembers : List PlaceMatcher → List PlaceMatcher → Prop
  /-- The members of a zone take its place. -/
  | flatten (before inner after : List PlaceMatcher) :
      RearrangesMembers (before ++ zone inner :: after) (before ++ inner ++ after)
  /-- A zone without members is left out. -/
  | dropEmpty (before after : List PlaceMatcher) :
      RearrangesMembers (before ++ zone [] :: after) (before ++ after)
  | reorder
      {members others : List PlaceMatcher}
      (perm : members.Perm others) : RearrangesMembers members others
  /-- A member is listed once more. -/
  | repeated
      {members : List PlaceMatcher}
      {member : PlaceMatcher}
      (isMember : member ∈ members) : RearrangesMembers members (member :: members)

theorem RearrangesMembers.mem_basics_iff
    (rearranged : RearrangesMembers members others)
    (basic : PlaceMatcher) :
    basic ∈ members.flatMap basics ↔ basic ∈ others.flatMap basics := by
  cases rearranged with
  | flatten before inner after =>
      simp only [List.flatMap_append, List.flatMap_cons, basics_zone, List.append_assoc]
  | dropEmpty before after =>
      simp only [List.flatMap_append, List.flatMap_cons, basics_zone, List.flatMap_nil,
        List.nil_append]
  | reorder perm => exact (perm.flatMap_right basics).mem_iff
  | @repeated _ member isMember =>
      rw [List.flatMap_cons, List.mem_append, iff_or_self]
      exact fun found => List.mem_flatMap.2 ⟨member, isMember, found⟩

/-- A member is added to a zone. -/
inductive AddsMember : List PlaceMatcher → List PlaceMatcher → Prop
  | add (before after : List PlaceMatcher) (member : PlaceMatcher) :
      AddsMember (before ++ after) (before ++ member :: after)

theorem AddsMember.basics_subset (added : AddsMember members others) :
    members.flatMap basics ⊆ others.flatMap basics := by
  obtain ⟨before, after, member⟩ := added
  intro basic
  simp only [List.flatMap_append, List.flatMap_cons, List.mem_append]
  exact Or.imp_right .inr

/-- The second matcher comes from the first one by adding members to zones. -/
def Extended : PlaceMatcher → PlaceMatcher → Prop :=
  Relation.ReflTransGen (InOneZone AddsMember)

/-- A matcher that is extended keeps its basic matchers. -/
theorem Extended.basics_subset (extended : Extended matcher other) :
    matcher.basics ⊆ other.basics := by
  induction extended with
  | refl => exact List.Subset.refl _
  | tail _ added inductionHypothesis =>
      exact List.Subset.trans inductionHypothesis
        (added.basics_subset fun _ _ => AddsMember.basics_subset)

/-! ## Rearranged zones -/

/-- Two matchers come from one another by rearranging the members of zones. -/
def Rearranged : PlaceMatcher → PlaceMatcher → Prop :=
  Relation.EqvGen (InOneZone RearrangesMembers)

namespace Rearranged

theorem refl (matcher : PlaceMatcher) : Rearranged matcher matcher :=
  Relation.EqvGen.refl matcher

theorem symm (rearranged : Rearranged matcher other) : Rearranged other matcher :=
  Relation.EqvGen.symm _ _ rearranged

theorem trans
    {third : PlaceMatcher}
    (first : Rearranged matcher other)
    (second : Rearranged other third) :
    Rearranged matcher third :=
  Relation.EqvGen.trans _ _ _ first second

instance : Trans Rearranged Rearranged Rearranged := ⟨trans⟩

theorem of_members (rearranged : RearrangesMembers members others) :
    Rearranged (zone members) (zone others) :=
  Relation.EqvGen.rel _ _ (.here rearranged)

/-- What a change of members keeps is kept in the zones around, forth and back. -/
theorem mem_basics_iff (rearranged : Rearranged matcher other) (basic : PlaceMatcher) :
    basic ∈ matcher.basics ↔ basic ∈ other.basics := by
  induction rearranged with
  | rel matcher other changed =>
      constructor
      · intro found
        refine changed.basics_subset (fun members others rearranged basic => ?_) found
        exact (rearranged.mem_basics_iff basic).1
      · intro found
        refine changed.swap.basics_subset (fun others members rearranged basic => ?_) found
        exact (rearranged.mem_basics_iff basic).2
  | refl matcher => rfl
  | symm matcher other _ inductionHypothesis => exact inductionHypothesis.symm
  | trans matcher other third _ _ first second => exact first.trans second

/-- One after the other, members can be replaced by the basic matchers inside them. -/
theorem of_each_member
    (each : ∀ member ∈ members, ∀ before after,
      Rearranged (zone (before ++ member :: after)) (zone (before ++ member.basics ++ after)))
    (before after : List PlaceMatcher) :
    Rearranged (zone (before ++ members ++ after))
      (zone (before ++ members.flatMap basics ++ after)) := by
  induction members generalizing before with
  | nil => exact refl _
  | cons member members inductionHypothesis =>
      have first := each member List.mem_cons_self before (members ++ after)
      have rest := inductionHypothesis (fun other isMember => each other (.tail member isMember))
        (before ++ member.basics)
      simp only [List.flatMap_cons, List.append_assoc, List.cons_append] at first rest ⊢
      exact first.trans rest

/--
A member can be replaced by its basic matchers: a zone gives way to its members, and each of these
to its basic matchers.
-/
theorem basics_of_member (member : PlaceMatcher) (before after : List PlaceMatcher) :
    Rearranged (zone (before ++ member :: after)) (zone (before ++ member.basics ++ after)) := by
  induction member using induction_on_members generalizing before after with
  | basic member basic =>
      rw [basics_of_isBasic basic, List.append_assoc, List.singleton_append]
      exact refl _
  | zone inner each =>
      rw [basics_zone]
      exact (of_members (.flatten before inner after)).trans (of_each_member each before after)

/-- Every zone can be flattened, so that its members are basic. -/
theorem zone_basics (members : List PlaceMatcher) :
    Rearranged (zone members) (zone (zone members).basics) := by
  have each := of_each_member (fun member (_ : member ∈ members) => basics_of_member member) [] []
  simpa using each

/-- Members that are there can be repeated. -/
theorem append_of_subset {extra : List PlaceMatcher} (subset : extra ⊆ members) :
    Rearranged (zone members) (zone (extra ++ members)) := by
  induction extra with
  | nil => exact refl _
  | cons member extra inductionHypothesis =>
      obtain ⟨isMember, rest⟩ := List.cons_subset.1 subset
      exact (inductionHypothesis rest).trans
        (of_members (.repeated (List.mem_append_right extra isMember)))

/-- Zones with the same members are rearrangements of each other. -/
theorem of_same_members (left : members ⊆ others) (right : others ⊆ members) :
    Rearranged (zone members) (zone others) :=
  calc
    Rearranged (zone members) (zone (others ++ members)) := append_of_subset right
    Rearranged _ (zone (members ++ others)) := of_members (.reorder List.perm_append_comm)
    Rearranged _ (zone others) := (append_of_subset left).symm

end Rearranged

/-- Zones can be rearranged into one another exactly when the same basic matchers occur in them. -/
theorem rearranged_iff :
    Rearranged (zone members) (zone others) ↔
      ∀ basic, basic.isBasic = true →
        (OccursIn basic (zone members) ↔ OccursIn basic (zone others)) := by
  constructor
  · intro rearranged basic isBasic
    have sameBasics := rearranged.mem_basics_iff basic
    rwa [mem_basics_iff, mem_basics_iff, and_iff_right isBasic, and_iff_right isBasic] at sameBasics
  · intro sameBasics
    have same (basic : PlaceMatcher) :
        basic ∈ (zone members).basics ↔ basic ∈ (zone others).basics := by
      rw [mem_basics_iff, mem_basics_iff]
      exact and_congr_right fun isBasic => sameBasics basic isBasic
    calc
      Rearranged (zone members) (zone (zone members).basics) := .zone_basics members
      Rearranged _ (zone (zone others).basics) :=
        .of_same_members (fun basic => (same basic).1) (fun basic => (same basic).2)
      Rearranged _ (zone others) := (Rearranged.zone_basics others).symm

/--
A matcher accepts the places that the basic matchers inside it accept, at whatever depth they are
found, and these are the places with one of their codes.  So it accepts the same places as the list
of its basic matchers, and as every matcher that comes from it when the members of some zones are
flattened, reordered, repeated, or left out where they are empty zones; such changes lead from a
zone to any other one with the same basic matchers.  Where members are added to zones, every place
is still accepted that was accepted before.
-/
theorem zones_unite_basics :
    (∀ matcher place, accepts matcher place = true ↔
      ∃ basic, basic.isBasic = true ∧ OccursIn basic matcher ∧ basic.accepts place = true) ∧
    (∀ matcher place, accepts matcher place = true ↔
      ∃ basic, OccursIn basic matcher ∧ basic.HasCodeOf place) ∧
    (∀ matcher : PlaceMatcher, (∀ member ∈ matcher.basics, member.isBasic = true) ∧
      ∀ place, (zone matcher.basics).accepts place = matcher.accepts place) ∧
    (∀ matcher other, Rearranged matcher other → ∀ place,
      other.accepts place = matcher.accepts place) ∧
    (∀ members others, Rearranged (zone members) (zone others) ↔
      ∀ basic, basic.isBasic = true →
        (OccursIn basic (zone members) ↔ OccursIn basic (zone others))) ∧
    ∀ matcher other, Extended matcher other → ∀ place,
      matcher.accepts place = true → other.accepts place = true := by
  have union (matcher : PlaceMatcher) (place : Location) : accepts matcher place = true ↔
      ∃ basic, basic.isBasic = true ∧ OccursIn basic matcher ∧ basic.accepts place = true := by
    rw [accepts_iff_exists_mem_basics]
    simp only [mem_basics_iff, and_assoc]
  refine ⟨union, fun matcher place => ?_, fun matcher => ⟨fun member found => ?_, fun place => ?_⟩,
    fun matcher other rearranged place => ?_, fun members others => rearranged_iff,
    fun matcher other extended place => accepts_of_basics_subset extended.basics_subset⟩
  · rw [union]
    exact exists_congr fun basic => by rw [hasCodeOf_iff, and_left_comm]
  · exact (mem_basics_iff.1 found).1
  · rw [Bool.eq_iff_iff, accepts_zone, List.any_eq_true, ← accepts_iff_exists_mem_basics]
  · have same := rearranged.mem_basics_iff
    rw [Bool.eq_iff_iff]
    exact ⟨accepts_of_basics_subset fun basic => (same basic).2,
      accepts_of_basics_subset fun basic => (same basic).1⟩

/-- An airport and a nation, in zones inside zones, and listed side by side. -/
theorem zones_unite_airport_and_nation :
    let nested := zone [zone [], zone [nation "GB", zone [airport "LHR"]], airport "LHR"]
    let flat := zone [airport "LHR", nation "GB"]
    let wider := zone [zone [], zone [nation "GB", zone [airport "LHR", city "PAR"]], airport "LHR"]
    let heathrow : Location := ⟨"LHR", "LON", "GB", "2"⟩
    Rearranged nested flat ∧ Extended nested wider ∧
      (∃ basic, basic.isBasic = true ∧ OccursIn basic nested ∧ basic.accepts heathrow = true) ∧
      (OccursIn (nation "GB") nested ↔ OccursIn (nation "GB") flat) ∧
      (zone nested.basics).accepts heathrow = true ∧ flat.accepts heathrow = true ∧
      wider.accepts heathrow = true := by
  intro nested flat wider heathrow
  have rearranged : Rearranged nested flat := calc
    Rearranged nested (zone [zone [nation "GB", zone [airport "LHR"]], airport "LHR"]) :=
      .of_members (.dropEmpty [] _)
    Rearranged _ (zone [nation "GB", zone [airport "LHR"], airport "LHR"]) :=
      .of_members (.flatten [] _ [_])
    Rearranged _ (zone [nation "GB", airport "LHR", airport "LHR"]) :=
      .of_members (.flatten [_] [_] [_])
    Rearranged _ (zone [airport "LHR", airport "LHR", nation "GB"]) :=
      .of_members (.reorder (List.perm_append_singleton (nation "GB") [_, _]).symm)
    Rearranged _ flat := (Rearranged.of_members (.repeated List.mem_cons_self)).symm
  have extended : Extended nested wider := .single
    (.inside [_] [_] (.inside [_] [] (.here (.add [_] [] (city "PAR")))))
  obtain ⟨accepts_iff, _, flattened, sameAccepted, sameBasics, moreAccepted⟩ := zones_unite_basics
  have accepted : nested.accepts heathrow = true := by decide
  exact ⟨rearranged, extended, (accepts_iff nested heathrow).1 accepted,
    (sameBasics _ _).1 rearranged (nation "GB") rfl, ((flattened nested).2 heathrow).trans accepted,
    (sameAccepted nested flat rearranged heathrow).trans accepted,
    moreAccepted nested wider extended heathrow accepted⟩

end PlaceMatcher
end FlightRule
