import FlightRule.Proofs.Criteria.Equivalence
import FlightRule.Proofs.Criteria.Meaning

/-!
# Weaker requirements

Where conditions match more segments, criteria of the same form stand for more spans
(`Rel.meaning_subset`) and speak about more flights (`Rel.covers`).  So a requirement that is met is
still met when its conditions become weaker, unless a CONNECTING joins the spans of an OR
(`isMet_of_weaker`): an OR that finds more on its left may give up what connects on its right.
Conditions become weaker when filters are left out, rows are added to flight tables, carriers join
alliances, or the ticket turns out to go round the world.
-/

namespace FlightRule

/--
A condition matches the segments of a list that another one matches.  Each comes with its filters
and its transaction.
-/
def Condition.WeakensTo
    (filters otherFilters : List SegmentFilter)
    (context otherContext : Context)
    (segments : List Segment)
    (condition other : Condition) : Prop :=
  ∀ segment ∈ segments, Criteria.Matches condition filters context segment →
    Criteria.Matches other otherFilters otherContext segment

/-! ## Criteria of the same form -/

namespace Criteria

/-- Criteria of the same form, with conditions that are related one by one. -/
inductive Rel (related : Condition → Condition → Prop) : Criteria → Criteria → Prop
  | leaf {condition other : Condition} (same : related condition other) :
      Rel related (leaf condition) (leaf other)
  | combine
      (relation : Relation)
      {left otherLeft right otherRight : Criteria}
      (leftRel : Rel related left otherLeft)
      (rightRel : Rel related right otherRight) :
      Rel related (combine relation left right) (combine relation otherLeft otherRight)

namespace Rel

variable
  {related : Condition → Condition → Prop}
  {criteria other : Criteria}
  {filters otherFilters : List SegmentFilter}
  {context otherContext : Context}
  {segments : List Segment}

theorem imp
    {otherRelated : Condition → Condition → Prop}
    (rel : criteria.Rel related other)
    (implies : ∀ condition other, related condition other → otherRelated condition other) :
    criteria.Rel otherRelated other := by
  induction rel with
  | leaf same => exact .leaf (implies _ _ same)
  | combine relation _ _ leftRel rightRel => exact .combine relation leftRel rightRel

/-- Related criteria have the same relations, and so both have a CONNECTING or none. -/
theorem hasConnecting_eq (rel : criteria.Rel related other) :
    criteria.hasConnecting = other.hasConnecting := by
  induction rel with
  | leaf => rfl
  | combine relation _ _ left_eq right_eq => rw [hasConnecting, hasConnecting, left_eq, right_eq]

theorem hasOr_eq (rel : criteria.Rel related other) : criteria.hasOr = other.hasOr := by
  induction rel with
  | leaf => rfl
  | combine relation _ _ left_eq right_eq => rw [hasOr, hasOr, left_eq, right_eq]

theorem hasOrBelowConnecting_eq (rel : criteria.Rel related other) :
    criteria.hasOrBelowConnecting = other.hasOrBelowConnecting := by
  induction rel with
  | leaf => rfl
  | combine relation leftRel rightRel left_eq right_eq =>
      rw [hasOrBelowConnecting, hasOrBelowConnecting, left_eq, right_eq, leftRel.hasOr_eq,
        rightRel.hasOr_eq]

theorem exists_related
    {condition : Condition}
    (rel : criteria.Rel related other)
    (member : condition ∈ criteria.conditions) :
    ∃ otherCondition ∈ other.conditions, related condition otherCondition := by
  induction rel with
  | leaf same =>
      obtain rfl := List.mem_singleton.1 member
      exact ⟨_, List.mem_singleton_self _, same⟩
  | combine relation _ _ onLeft onRight =>
      rcases List.mem_append.1 member with inLeft | inRight
      · obtain ⟨found, inOther, foundRelated⟩ := onLeft inLeft
        exact ⟨found, List.mem_append_left _ inOther, foundRelated⟩
      · obtain ⟨found, inOther, foundRelated⟩ := onRight inRight
        exact ⟨found, List.mem_append_right _ inOther, foundRelated⟩

/-- Criteria with weaker conditions stand for more spans. -/
theorem meaning_subset
    (rel : criteria.Rel
      (Condition.WeakensTo filters otherFilters context otherContext segments) other) :
    criteria.meaning filters context segments ⊆
      other.meaning otherFilters otherContext segments := by
  induction rel with
  | leaf weakens =>
      rintro span ⟨⟨segment, present, matched⟩, single⟩
      exact ⟨⟨segment, present, weakens segment (List.mem_of_getElem? present) matched⟩, single⟩
  | combine relation _ _ leftSubset rightSubset =>
      cases relation with
      | or => exact Set.union_subset_union leftSubset rightSubset
      | andOr => exact Set.union_subset_union leftSubset rightSubset
      | and =>
          rintro span ⟨⟨leftSome, rightSome⟩, onSide⟩
          exact ⟨⟨leftSome.mono leftSubset, rightSome.mono rightSubset⟩,
            Set.union_subset_union leftSubset rightSubset onSide⟩
      | connecting =>
          rintro span ⟨first, onLeft, next, onRight, adjoins, equal⟩
          exact ⟨first, leftSubset onLeft, next, rightSubset onRight, adjoins, equal⟩

/-- Criteria with weaker conditions speak about more flights. -/
theorem covers
    (rel : criteria.Rel
      (Condition.WeakensTo filters otherFilters context otherContext segments) other)
    (covered : criteria.covers filters context segments = true) :
    other.covers otherFilters otherContext segments = true := by
  rw [covers_eq_true_iff] at covered ⊢
  intro segment member flown
  obtain ⟨condition, joined, matched⟩ := covered segment member flown
  obtain ⟨otherCondition, otherJoined, weakens⟩ := rel.exists_related joined
  exact ⟨otherCondition, otherJoined, weakens segment member matched⟩

/-- Criteria with weaker conditions find something, unless a CONNECTING joins the spans of an OR. -/
theorem spans_ne_nil
    (rel : criteria.Rel
      (Condition.WeakensTo filters otherFilters context otherContext segments) other)
    (noOrBelow : criteria.hasOrBelowConnecting = false)
    (finds : criteria.spans filters context segments ≠ []) :
    other.spans otherFilters otherContext segments ≠ [] := by
  rw [rel.hasOrBelowConnecting_eq] at noOrBelow
  rw [spans_ne_nil_iff noOrBelow]
  exact (nonempty_meaning_of_spans_ne_nil finds).mono rel.meaning_subset

end Rel
end Criteria

/-! ## Requirements -/

namespace Requirement

variable
  {requirement other : Requirement}
  {context otherContext : Context}
  {segments opposite : List Segment}

/--
Two requirements, each in its transaction, have the same form, and the conditions of the second one
match the segments of a list that those of the first one match.  Without criteria the filters of
the second requirement admit the flown segments that those of the first one admit.
-/
structure WeakensTo
    (requirement other : Requirement)
    (context otherContext : Context)
    (segments : List Segment) : Prop where
  criteria_rel : Option.Rel
    (Criteria.Rel (Condition.WeakensTo requirement.filters other.filters context otherContext
      segments))
    requirement.criteria other.criteria
  admits : requirement.criteria = none → ∀ segment ∈ segments, segment.isFlown = true →
    (∀ filter ∈ requirement.filters, filter.accepts segment = true) →
      ∀ filter ∈ other.filters, filter.accepts segment = true
  shape_eq : requirement.shape = other.shape

/-- Criteria that are met stay met when they are weakened, if no OR is below a CONNECTING. -/
theorem WeakensTo.criteriaMet
    (weakens : requirement.WeakensTo other context otherContext segments)
    (noOrBelow : ∀ criteria ∈ requirement.criteria, criteria.hasOrBelowConnecting = false)
    (met : requirement.criteriaMet context segments = true) :
    other.criteriaMet otherContext segments = true := by
  obtain ⟨criteria?, filters, shape⟩ := requirement
  obtain ⟨otherCriteria?, otherFilters, otherShape⟩ := other
  have criteria_rel := weakens.criteria_rel
  cases criteria_rel with
  | none =>
      rw [criteriaMet_none_iff] at met ⊢
      intro segment member flown
      obtain ⟨_, admitted⟩ := Criteria.matches_anyFlown_iff.1 (met segment member flown)
      exact Criteria.matches_anyFlown_iff.2
        ⟨flown, weakens.admits rfl segment member flown admitted⟩
  | @some criteria otherCriteria rel =>
      rw [criteriaMet_some_iff] at met ⊢
      obtain ⟨finds, connectsOrCovers⟩ := met
      refine ⟨rel.spans_ne_nil (noOrBelow criteria rfl) finds, ?_⟩
      rw [← rel.hasConnecting_eq]
      exact connectsOrCovers.imp_right rel.covers

/-- A requirement that is met stays met when it is weakened, under the same condition. -/
theorem WeakensTo.isMet
    (weakens : requirement.WeakensTo other context otherContext segments)
    (noOrBelow : ∀ criteria ∈ requirement.criteria, criteria.hasOrBelowConnecting = false)
    (met : requirement.isMet context segments opposite = true) :
    other.isMet otherContext segments opposite = true := by
  rw [Requirement.isMet, Bool.and_eq_true] at met ⊢
  refine ⟨weakens.criteriaMet noOrBelow met.1, ?_⟩
  rw [shapeMet, ← weakens.shape_eq]
  exact met.2

end Requirement

/-! ## More flights in tables and alliances -/

/-- Alliances count in the second transaction where they do in the first, and have their members. -/
structure Context.GrowsTo (context other : Context) : Prop where
  roundTheWorld : context.roundTheWorld = true → other.roundTheWorld = true
  alliances : ∀ carrier alliance, (context.alliances carrier).contains alliance = true →
    (other.alliances carrier).contains alliance = true

/-- The same condition, except that a second table has the rows of the first one and maybe more. -/
inductive Condition.GrowsTo : Condition → Condition → Prop
  | flight (condition : FlightCondition) : GrowsTo (.flight condition) (.flight condition)
  | table {table other : TableCondition} (kept : ∀ row ∈ table.rows, row ∈ other.rows) :
      GrowsTo (.table table) (.table other)
  | anyFlown : GrowsTo .anyFlown .anyFlown

/--
Requirements of the same form and shape: the second one has no filters but those of the first, and
its flight tables have the rows of the first and maybe more.
-/
structure Requirement.LoosensTo (requirement other : Requirement) : Prop where
  criteria_rel :
    Option.Rel (Criteria.Rel Condition.GrowsTo) requirement.criteria other.criteria
  filters : ∀ filter ∈ other.filters, filter ∈ requirement.filters
  shape_eq : requirement.shape = other.shape

variable
  {context other : Context}
  {segment : Segment}

theorem CarrierPattern.accepts_of_growsTo
    {pattern : CarrierPattern}
    {allianceAware : Bool}
    {code : String}
    (grows : context.GrowsTo other)
    (accepted : pattern.accepts allianceAware context code = true) :
    pattern.accepts allianceAware other code = true := by
  cases pattern with
  | any => rfl
  | exact expected =>
      simp only [accepts, Bool.or_eq_true, Bool.and_eq_true] at accepted ⊢
      rcases accepted with alike | ⟨⟨aware, roundTheWorld⟩, member⟩
      · exact .inl alike
      · exact .inr
          ⟨⟨aware, grows.roundTheWorld roundTheWorld⟩, grows.alliances code expected member⟩

theorem FlightCondition.accepts_of_growsTo
    {condition : FlightCondition}
    (grows : context.GrowsTo other)
    (accepted : condition.accepts context segment = true) :
    condition.accepts other segment = true := by
  simp only [accepts, Bool.and_eq_true] at accepted ⊢
  obtain ⟨⟨⟨flown, carrierMet⟩, operatingMet⟩, flightMet⟩ := accepted
  exact ⟨⟨⟨flown, CarrierPattern.accepts_of_growsTo grows carrierMet⟩,
    CarrierPattern.accepts_of_growsTo grows operatingMet⟩, flightMet⟩

/-- A condition that grows, in a context that grows, holds of no fewer segments. -/
theorem Condition.GrowsTo.accepts
    {condition otherCondition : Condition}
    (conditionGrows : condition.GrowsTo otherCondition)
    (grows : context.GrowsTo other)
    (accepted : condition.accepts context segment = true) :
    otherCondition.accepts other segment = true := by
  cases conditionGrows with
  | flight condition => exact FlightCondition.accepts_of_growsTo grows accepted
  | table kept =>
      simp only [Condition.accepts, TableCondition.accepts, Bool.and_eq_true,
        List.any_eq_true] at accepted ⊢
      obtain ⟨flown, row, member, rowAccepted⟩ := accepted
      exact ⟨flown, row, kept row member, FlightCondition.accepts_of_growsTo grows rowAccepted⟩
  | anyFlown => exact accepted

/-- A requirement that is loosened is weakened on every journey. -/
theorem Requirement.LoosensTo.weakensTo
    {requirement otherRequirement : Requirement}
    (loosens : requirement.LoosensTo otherRequirement)
    (grows : context.GrowsTo other)
    (segments : List Segment) :
    requirement.WeakensTo otherRequirement context other segments where
  criteria_rel := by
    have weakens (condition otherCondition : Condition)
        (conditionGrows : condition.GrowsTo otherCondition) :
        condition.WeakensTo requirement.filters otherRequirement.filters context other segments
          otherCondition := by
      rintro segment _ ⟨flown, accepted, admitted⟩
      exact ⟨flown, conditionGrows.accepts grows accepted,
        fun filter kept => admitted filter (loosens.filters filter kept)⟩
    have criteria_rel := loosens.criteria_rel
    generalize requirement.criteria = asked, otherRequirement.criteria = otherAsked
      at criteria_rel ⊢
    cases criteria_rel with
    | none => exact .none
    | some rel => exact .some (rel.imp weakens)
  admits := fun _ _ _ _ admitted filter kept => admitted filter (loosens.filters filter kept)
  shape_eq := loosens.shape_eq

/--
A requirement that is met is still met when its conditions become weaker, in the same window and
with the same shapes, unless a CONNECTING joins the spans of an OR.  In particular filters may be
left out, rows may be added to flight tables, carriers may join alliances, and the ticket may turn
out to go round the world, each by itself or together.
-/
theorem isMet_of_weaker
    (requirement otherRequirement : Requirement)
    (context other : Context)
    (segments opposite : List Segment)
    (noOrBelow : ∀ criteria ∈ requirement.criteria, criteria.hasOrBelowConnecting = false)
    (met : requirement.isMet context segments opposite = true) :
    (requirement.WeakensTo otherRequirement context other segments →
      otherRequirement.isMet other segments opposite = true) ∧
    (requirement.LoosensTo otherRequirement → context.GrowsTo other →
      otherRequirement.isMet other segments opposite = true) :=
  ⟨fun weakens => weakens.isMet noOrBelow met,
    fun loosens grows => (loosens.weakensTo grows segments).isMet noOrBelow met⟩

/--
Two carriers connect.  They still do if any carrier will do for the first one; and if the filter is
left out and the table gets one more row, for an alliance of its carrier on a ticket that now goes
round the world.
-/
theorem isMet_with_longer_table :
    let table (codes : List String) : Criteria :=
      .leaf (.table ⟨"ATP", 1, codes.map fun code =>
        { FlightCondition.literal code .any with allianceAware := true }⟩)
    let requirement : Requirement :=
      { criteria := some (.combine .connecting (table ["DL"]) (table ["UA"])),
        filters := [.equipment "744" .invalid] }
    let anyFirst : Requirement :=
      { criteria := some (.combine .connecting (.leaf .anyFlown) (table ["UA"])) }
    let longer : Requirement :=
      { criteria := some (.combine .connecting (table ["SKYTEAM", "DL"]) (table ["UA"])) }
    let around : Context := { roundTheWorld := true, alliances := fun _ => .ofList ["SKYTEAM"] }
    let segments : List Segment := [.air "DL" 1 default default, .air "UA" 2 default default]
    (∀ criteria ∈ requirement.criteria, criteria.hasOrBelowConnecting = false) ∧
      requirement.isMet {} segments [] = true ∧
      (requirement.WeakensTo anyFirst {} {} segments ∧ anyFirst.isMet {} segments [] = true) ∧
      requirement.LoosensTo longer ∧ Context.GrowsTo {} around ∧
      longer.isMet around segments [] = true := by
  intro table requirement anyFirst longer around segments
  have noOrBelow : ∀ criteria ∈ requirement.criteria, criteria.hasOrBelowConnecting = false := by
    rintro _ ⟨⟩
    rfl
  have met : requirement.isMet {} segments [] = true := by decide
  have weakens : requirement.WeakensTo anyFirst {} {} segments := by
    refine ⟨.some (.combine .connecting (.leaf ?_) (.leaf ?_)), fun noCriteria => ?_, rfl⟩
    · exact fun segment _ matched => ⟨matched.1, matched.1, fun filter none => by cases none⟩
    · exact fun segment _ matched => ⟨matched.1, matched.2.1, fun filter none => by cases none⟩
    · cases noCriteria
  have loosens : requirement.LoosensTo longer := by
    refine ⟨.some (.combine .connecting (.leaf (.table ?_)) (.leaf (.table ?_))), ?_, rfl⟩
    · exact fun row member => List.mem_cons_of_mem _ member
    · exact fun row member => member
    · exact fun filter none => by cases none
  have grows : Context.GrowsTo {} around := ⟨fun _ => rfl, fun _ _ none => by cases none⟩
  have stillMet := (isMet_of_weaker requirement anyFirst {} {} segments [] noOrBelow met).1 weakens
  have metAround :=
    (isMet_of_weaker requirement longer {} around segments [] noOrBelow met).2 loosens grows
  exact ⟨noOrBelow, met, ⟨weakens, stillMet⟩, loosens, grows, metAround⟩

/-- One more row below OR and CONNECTING hides the flight that connects. -/
example :
    let table (codes : List String) : Criteria :=
      .leaf (.table ⟨"ATP", 1, codes.map (FlightCondition.literal · .any)⟩)
    let asked (codes : List String) : Requirement :=
      { criteria := some (.combine .connecting (.combine .or (table codes) (table ["AA"]))
          (table ["UA"])) }
    let segments : List Segment :=
      [.air "AA" 1 default default, .air "UA" 2 default default, .air "DL" 3 default default]
    (asked ["BA"]).isMet {} segments [] = true ∧
      (asked ["BA", "DL"]).isMet {} segments [] = false := by
  decide

end FlightRule
