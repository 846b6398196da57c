import FlightRule.Proofs.Text.Case

/-!
# Texts that are alike their upper-case form

Upper case changes characters beyond the basic Latin letters, but texts are compared without regard
to the case of the basic Latin letters only.  So a text is alike its upper-case form exactly when
upper case changes none of its other characters (`alike_upper_iff`), and alike the upper-case form
of what is left when blanks are cut from its ends exactly when nothing is cut, either
(`alike_upper_trim_iff`).
-/

namespace FlightRule.Text

variable {text left right : String} {c : Char}

/-! ## Upper-case forms of characters -/

/-- The upper-case form of a character is found in one of the tables, or it is the character. -/
theorem upperForm_cases (c : Char) :
    upperForm c = [c.toUpper] ∨
    (∃ form, (c.toNat, form) ∈ upperExpansions ∧ upperForm c = form.map Char.ofNat) ∨
    (∃ run ∈ upperRuns, run.first ≤ c.toNat ∧ c.toNat ≤ run.last ∧
      upperForm c = [Char.ofNat (c.toNat + run.offset).toNat]) ∨
    upperForm c = [c] := by
  unfold upperForm upperBeyondLatin
  by_cases basic : c.toNat < 0x80
  · exact .inl (if_pos basic)
  · rw [if_neg basic]
    cases expanded : upperExpansions.lookup c.toNat with
    | some form =>
        obtain ⟨before, after, split, _⟩ := List.lookup_eq_some_iff.1 expanded
        exact .inr (.inl ⟨form, by simp [split], rfl⟩)
    | none =>
        cases found : upperRun? c.toNat with
        | some run =>
            have inRun := List.find?_some found
            simp only [Bool.and_eq_true, decide_eq_true_eq] at inRun
            exact .inr (.inr (.inl
              ⟨run, List.mem_of_find?_eq_some found, inRun.1.1, inRun.1.2, rfl⟩))
        | none => exact .inr (.inr (.inr rfl))

theorem upperForm_ne_nil (c : Char) : upperForm c ≠ [] := by
  have expanded : ∀ entry ∈ upperExpansions, entry.2 ≠ [] := by decide
  rcases upperForm_cases c with basic | ⟨form, member, form_eq⟩ | ⟨run, _, _, _, run_eq⟩ | same
  · rw [basic]
    exact List.cons_ne_nil _ _
  · rw [form_eq, ne_eq, List.map_eq_nil_iff]
    exact expanded _ member
  · rw [run_eq]
    exact List.cons_ne_nil _ _
  · rw [same]
    exact List.cons_ne_nil _ _

theorem isBlank_toUpper (c : Char) : isBlank c.toUpper = isBlank c := by
  rw [← isBlank_toLower, c.toLower_toUpper_eq_toLower, isBlank_toLower]

/-- The upper-case forms with several characters have no blank. -/
theorem isBlank_of_mem_upperExpansions :
    ∀ entry ∈ upperExpansions, ∀ code ∈ entry.2, isBlank (Char.ofNat code) = false := by
  decide

/-- No run of capitals meets a range of blanks. -/
theorem ends_outside_blankRanges :
    ∀ run ∈ upperRuns, 0 ≤ run.first + run.offset ∧ ∀ blank ∈ blankRanges,
      run.last + run.offset < blank.1 ∨ (blank.2 : Int) < run.first + run.offset := by
  decide +kernel

theorem isBlank_ofNat_of_outside
    {code : Nat}
    (outside : ∀ blank ∈ blankRanges, code < blank.1 ∨ blank.2 < code) :
    isBlank (Char.ofNat code) = false := by
  by_cases valid : code.isValidChar
  · rw [isBlank, Char.toNat_ofNat, if_pos valid, List.any_eq_false]
    intro blank member
    have apart := outside blank member
    simp only [Bool.and_eq_true, decide_eq_true_eq]
    omega
  · rw [Char.ofNat, dif_neg valid]
    decide

/-- Upper case makes no blank of a character that is none. -/
theorem isBlank_of_mem_upperForm
    {form : Char}
    (ink : isBlank c = false)
    (member : form ∈ upperForm c) :
    isBlank form = false := by
  rcases upperForm_cases c with basic | ⟨codes, listed, codes_eq⟩ |
    ⟨run, listed, atLeast, atMost, run_eq⟩ | same
  · rw [basic, List.mem_singleton] at member
    rw [member, isBlank_toUpper, ink]
  · rw [codes_eq] at member
    obtain ⟨code, codeMember, rfl⟩ := List.mem_map.1 member
    exact isBlank_of_mem_upperExpansions _ listed code codeMember
  · rw [run_eq, List.mem_singleton] at member
    rw [member]
    apply isBlank_ofNat_of_outside
    intro blank blankMember
    obtain ⟨valid, outside⟩ := ends_outside_blankRanges run listed
    have apart := outside blank blankMember
    omega
  · rw [same, List.mem_singleton] at member
    rw [member, ink]

/-! ## Blanks at the ends -/

/-- A text stays whole when neither its first nor its last character is blank. -/
theorem trim_eq_self_iff :
    trim text = text ↔
      (∀ c ∈ text.toList.head?, isBlank c = false) ∧
        ∀ c ∈ text.toList.getLast?, isBlank c = false := by
  constructor
  · intro whole
    have toList_eq : (dropBlanks (dropBlanks text.toList).reverse).reverse = text.toList := by
      conv_rhs => rw [← whole, trim, String.toList_ofList]
    have start_eq : dropBlanks text.toList = text.toList := by
      apply (List.dropWhile_suffix isBlank).eq_of_length_le
      calc text.toList.length
        _ = (dropBlanks (dropBlanks text.toList).reverse).length := by
            conv_lhs => rw [← toList_eq, List.length_reverse]
        _ ≤ (dropBlanks text.toList).reverse.length := (List.dropWhile_suffix isBlank).length_le
        _ = (dropBlanks text.toList).length := List.length_reverse
    constructor
    · intro c first
      rw [← start_eq] at first
      exact isBlank_of_mem_head?_dropBlanks first
    · intro c last
      rw [← toList_eq, List.getLast?_reverse] at last
      exact isBlank_of_mem_head?_dropBlanks last
  · rintro ⟨startInk, endInk⟩
    rw [← List.head?_reverse] at endInk
    rw [trim, dropBlanks_of_head? startInk, dropBlanks_of_head? endInk, List.reverse_reverse,
      String.ofList_toList]

theorem trim_lower_eq_self_iff : trim (lower text) = lower text ↔ trim text = text := by
  rw [trim_eq_self_iff, trim_eq_self_iff]
  simp only [toList_lower, List.head?_map, List.getLast?_map, Option.mem_def,
    Option.map_eq_some_iff, forall_exists_index, and_imp, forall_apply_eq_imp_iff₂, isBlank_toLower]

/-- Of two texts that are alike, both have blanks at their ends or neither has. -/
theorem trim_eq_self_iff_of_alike (same : alike left right = true) :
    trim left = left ↔ trim right = right := by
  rw [← trim_lower_eq_self_iff, lower_eq_lower_iff.2 same, trim_lower_eq_self_iff]

/-- Upper case brings no blanks to the ends of a text. -/
theorem trim_upper_of_trim (whole : trim text = text) : trim (upper text) = upper text := by
  rw [trim_eq_self_iff] at whole ⊢
  rw [toList_upper]
  constructor
  · intro form first
    cases chars : text.toList with
    | nil => simp [chars] at first
    | cons c rest =>
        rw [chars, List.flatMap_cons, List.head?_append_of_ne_nil _ (upperForm_ne_nil c)] at first
        apply isBlank_of_mem_upperForm (whole.1 c (by simp [chars]))
        exact List.mem_of_mem_head? first
  · intro form last
    rcases List.eq_nil_or_concat' text.toList with chars | ⟨before, c, chars⟩
    · simp [chars] at last
    · rw [chars, List.flatMap_append, List.flatMap_singleton,
        List.getLast?_append_of_ne_nil _ (upperForm_ne_nil c)] at last
      apply isBlank_of_mem_upperForm (whole.2 c (by simp [chars]))
      exact List.mem_of_getLast? last

/-! ## Texts that are alike their upper-case form -/

section Pieces

variable {α β : Type} {pieces : α → List β} {item : α → β}

theorem length_le_length_flatMap
    (nonempty : ∀ value, pieces value ≠ [])
    (values : List α) :
    values.length ≤ (values.flatMap pieces).length := by
  induction values with
  | nil => exact Nat.le_refl 0
  | cons value values inductionHypothesis =>
      have someItem := List.length_pos_iff.2 (nonempty value)
      rw [List.flatMap_cons, List.length_append, List.length_cons]
      omega

/--
Pieces that are not empty spell a list item by item when each of them is one item: the other pieces
are long enough to leave one item for the first piece.
-/
theorem flatMap_eq_map_iff
    (nonempty : ∀ value, pieces value ≠ [])
    (values : List α) :
    values.flatMap pieces = values.map item ↔ ∀ value ∈ values, pieces value = [item value] := by
  induction values with
  | nil => simp
  | cons value values inductionHypothesis =>
      rw [List.flatMap_cons, List.map_cons, List.forall_mem_cons]
      constructor
      · intro spelled
        have oneItem : (pieces value).length = 1 := by
          have someItem := List.length_pos_iff.2 (nonempty value)
          have others := length_le_length_flatMap nonempty values
          have total := congrArg List.length spelled
          rw [List.length_append, List.length_cons, List.length_map] at total
          omega
        obtain ⟨first, first_eq⟩ := List.length_eq_one_iff.1 oneItem
        rw [first_eq, List.singleton_append, List.cons.injEq] at spelled
        rw [first_eq, spelled.1]
        exact ⟨rfl, inductionHypothesis.1 spelled.2⟩
      · rintro ⟨first_eq, others_eq⟩
        rw [first_eq, inductionHypothesis.2 others_eq, List.singleton_append]

end Pieces

/-- Neither a capital A to Z nor its small letter is beyond the basic Latin letters. -/
theorem toLower_eq_of_beyond (beyond : 0x80 ≤ c.toNat ∨ 0x80 ≤ c.toLower.toNat) :
    c.toLower = c := by
  apply Char.toLower_eq_of_not_isUpper
  intro capital
  obtain ⟨_, atMost, small⟩ := toNat_of_isUpper capital
  omega

/--
Beyond the basic Latin letters, a character comes back in small letters only if it has no other
upper-case form.
-/
theorem map_toLower_upperForm_iff (beyond : 0x80 ≤ c.toNat) :
    (upperForm c).map Char.toLower = [c.toLower] ↔ upperForm c = [c] := by
  rw [toLower_eq_of_beyond (.inl beyond)]
  constructor
  · intro mapped
    obtain ⟨form, form_eq, rfl⟩ := List.map_eq_singleton_iff.1 mapped
    rw [form_eq, toLower_eq_of_beyond (.inr beyond)]
  · intro kept
    rw [kept, List.map_singleton, toLower_eq_of_beyond (.inl beyond)]

/-- A text is alike its upper-case form when upper case changes basic Latin letters only. -/
theorem alike_upper_iff :
    alike (upper text) text = true ↔
      ∀ c ∈ text.toList, 0x80 ≤ c.toNat → upperForm c = [c] := by
  have foldedForm_ne_nil (c : Char) : (upperForm c).map Char.toLower ≠ [] := by
    rw [ne_eq, List.map_eq_nil_iff]
    exact upperForm_ne_nil c
  rw [alike_iff, folded, folded, toList_upper, List.map_flatMap,
    flatMap_eq_map_iff foldedForm_ne_nil]
  refine forall₂_congr fun c _ => ?_
  by_cases basic : c.toNat < 0x80
  · rw [upperForm_of_lt basic, List.map_singleton, c.toLower_toUpper_eq_toLower]
    exact iff_of_true rfl fun beyond => absurd basic (Nat.not_lt.2 beyond)
  · have beyond := Nat.not_lt.1 basic
    rw [map_toLower_upperForm_iff beyond]
    exact ⟨fun kept _ => kept, fun kept => kept beyond⟩

/-- A text without blanks at its ends, in which upper case changes basic Latin letters only. -/
def IsSettled (text : String) : Prop :=
  trim text = text ∧ ∀ c ∈ text.toList, 0x80 ≤ c.toNat → upperForm c = [c]

instance (text : String) : Decidable (IsSettled text) :=
  have : Decidable (∀ c ∈ text.toList, 0x80 ≤ c.toNat → upperForm c = [c]) :=
    List.decidableBAll _ text.toList
  inferInstanceAs (Decidable (_ ∧ _))

/-- A text is alike what it becomes without blanks at its ends and in upper case. -/
theorem alike_upper_trim_iff : alike (upper (trim text)) text = true ↔ IsSettled text := by
  constructor
  · intro same
    have whole : trim text = text :=
      (trim_eq_self_iff_of_alike same).1 (trim_upper_of_trim (trim_trim text))
    rw [whole] at same
    exact ⟨whole, alike_upper_iff.1 same⟩
  · rintro ⟨whole, kept⟩
    rw [whole]
    exact alike_upper_iff.2 kept

end FlightRule.Text
