import FlightRule.Json.Value
import FlightRule.Proofs.Json.Lexeme

/-!
# Written text

A value whose lexemes are scanned as a whole (`Written`) is read back from its text, be it without
blanks (`ofText?_text`) or indented (`ofText?_indentedText`).  Both follow from one description of
the texts of arrays and objects, with any blanks between the tokens (`laid_array`, `laid_object`).
-/

namespace FlightRule.Json

/-! ## Tokens in a text -/

namespace Token

/-- The token is scanned as it was written, if the given text follows it. -/
def StandsBefore (token : Token) (rest : List Char) : Prop :=
  match token with
  | number lexeme => Number.IsLexeme lexeme ∧ Number.EndsBefore rest
  | string lexeme => Literal.IsLexeme lexeme
  | _ => True

/-- The text is made of these tokens with blanks between them. -/
inductive Spells : List Token → List Char → Prop where
  | nil : Spells [] []
  | space
      {c : Char}
      {tokens : List Token}
      {text : List Char}
      (blank : isSpace c = true)
      (spelled : Spells tokens text) :
      Spells tokens (c :: text)
  | token
      (token : Token)
      {tokens : List Token}
      {text : List Char}
      (stands : token.StandsBefore text)
      (spelled : Spells tokens text) :
      Spells (token :: tokens) (token.chars ++ text)

/--
A number is scanned up to its end, since neither a minus sign nor a digit is a blank or starts a
token of another kind.
-/
theorem scan_number
    {lexeme rest : List Char}
    (isLexeme : Number.IsLexeme lexeme)
    (ends : Number.EndsBefore rest) :
    ∃ first tail, lexeme ++ rest = first :: tail ∧ isSpace first = false ∧
      scan first tail = some (number lexeme, rest) := by
  obtain ⟨first, tail, rfl, starts⟩ := isLexeme.exists_cons
  have scanned := isLexeme rest ends
  rw [List.cons_append] at scanned
  have isNumber (other : Char) (otherwise : other ≠ '-' ∧ other.isDigit = false) :
      first ≠ other := by
    rintro rfl
    simp [otherwise] at starts
  refine ⟨first, tail ++ rest, rfl, ?_, ?_⟩
  · simp only [isSpace, Bool.or_eq_false_iff, beq_eq_false_iff_ne]
    refine ⟨⟨⟨?_, ?_⟩, ?_⟩, ?_⟩ <;> exact isNumber _ (by decide)
  · unfold scan
    split
    iterate 10 exact absurd rfl (isNumber _ (by decide))
    simp [scanned]

theorem exists_scan
    {token : Token}
    {rest : List Char}
    (stands : token.StandsBefore rest) :
    ∃ first tail, token.chars ++ rest = first :: tail ∧ isSpace first = false ∧
      scan first tail = some (token, rest) := by
  cases token with
  | number lexeme => exact scan_number stands.1 stands.2
  | string lexeme =>
      have scanned : Literal.scan (lexeme ++ '"' :: rest) = some (lexeme, rest) := stands rest
      refine ⟨'"', lexeme ++ '"' :: rest, by simp [chars], rfl, ?_⟩
      simp [scan, scanned]
  | bool value =>
      cases value with
      | true => exact ⟨_, _, rfl, rfl, by simp [scan, afterWord]⟩
      | false => exact ⟨_, _, rfl, rfl, by simp [scan, afterWord]⟩
  | null => exact ⟨_, _, rfl, rfl, by simp [scan, afterWord]⟩
  | openArray | closeArray | openObject | closeObject | colon | comma => exact ⟨_, _, rfl, rfl, rfl⟩

/-- The tokens of a text are those that it is made of. -/
theorem ofText?_of_spells
    {tokens : List Token}
    {text : List Char}
    (spelled : Spells tokens text) :
    ofText? text = some tokens := by
  induction spelled with
  | nil => rw [ofText?]
  | space blank _ inductionHypothesis => rw [ofText?, if_pos blank, inductionHypothesis]
  | token _ stands _ inductionHypothesis =>
      obtain ⟨first, tail, text_eq, notBlank, scanned⟩ := exists_scan stands
      rw [text_eq, ofText?, if_neg (by simp [notBlank])]
      split
      next failed => simp [scanned] at failed
      next found =>
        cases scanned.symm.trans found
        rw [inductionHypothesis, Option.map_some]

/-- Blanks can be put in front of any text. -/
theorem Spells.append
    {tokens : List Token}
    {text blanks : List Char}
    (blank : blanks.all isSpace = true)
    (spelled : Spells tokens text) :
    Spells tokens (blanks ++ text) := by
  induction blanks with
  | nil => exact spelled
  | cons c blanks inductionHypothesis =>
      rw [List.all_cons, Bool.and_eq_true] at blank
      exact .space blank.1 (inductionHypothesis blank.2)

end Token

/-! ## Values in a text -/

open Token (Spells isSpace)

/-- Every lexeme in the value is one that scanning takes as a whole. -/
inductive Written : Json → Prop where
  | null : Written null
  | bool (value : Bool) : Written (bool value)
  | number {lexeme : List Char} (isLexeme : Number.IsLexeme lexeme) : Written (number lexeme)
  | string {lexeme : List Char} (isLexeme : Literal.IsLexeme lexeme) : Written (string lexeme)
  | array {items : List Json} (items_written : ∀ item ∈ items, Written item) :
      Written (array items)
  | object
      {members : List (List Char × Json)}
      (areLexemes : ∀ member ∈ members, Literal.IsLexeme member.1)
      (values_written : ∀ member ∈ members, Written member.2) :
      Written (object members)

/-- The text is one for the value, wherever a number could end. -/
def Laid (value : Json) (text : List Char) : Prop :=
  ∀ tokens rest, Spells tokens rest → Number.EndsBefore rest →
    Spells (value.tokens ++ tokens) (text ++ rest)

theorem Number.endsBefore_cons
    {c : Char}
    (other : c.isDigit = false ∧ c ≠ '.' ∧ c ≠ 'e' ∧ c ≠ 'E')
    (rest : List Char) :
    Number.EndsBefore (c :: rest) := by
  intro first isFirst
  obtain rfl := Option.some.inj isFirst
  exact other

theorem Number.endsBefore_append
    {blanks rest : List Char}
    (blank : blanks.all isSpace = true)
    (ends : Number.EndsBefore rest) :
    Number.EndsBefore (blanks ++ rest) := by
  cases blanks with
  | nil => exact ends
  | cons c blanks =>
      rw [List.all_cons, Bool.and_eq_true] at blank
      refine Number.endsBefore_cons ?_ _
      have isBlank := blank.1
      simp only [isSpace, Bool.or_eq_true, beq_iff_eq] at isBlank
      rcases isBlank with ((rfl | rfl) | rfl) | rfl <;> decide

section

variable
  {gap lastGap space : List Char}
  {lay : Json → List Char}

/-- The text of the further items of an array, up to its end. -/
def furtherItems (gap lastGap : List Char) (lay : Json → List Char) (items : List Json) :
    List Char :=
  items.flatMap (fun item => ',' :: gap ++ lay item) ++ lastGap ++ [']']

theorem endsBefore_furtherItems
    (blank : lastGap.all isSpace = true)
    (items : List Json)
    (rest : List Char) :
    Number.EndsBefore (furtherItems gap lastGap lay items ++ rest) := by
  cases items with
  | nil =>
      rw [furtherItems, List.flatMap_nil, List.nil_append, List.append_assoc]
      exact Number.endsBefore_append blank (Number.endsBefore_cons (by decide) _)
  | cons => exact Number.endsBefore_cons (by decide) _

/-- The text from behind an item to the end of an array spells its tokens. -/
theorem spells_furtherItems
    (blank : gap.all isSpace = true)
    (lastBlank : lastGap.all isSpace = true)
    {items : List Json}
    (laid : ∀ item ∈ items, Laid item (lay item))
    {tokens : List Token}
    {rest : List Char}
    (spelled : Spells tokens rest) :
    Spells (tokensOfItems items ++ tokens) (furtherItems gap lastGap lay items ++ rest) := by
  induction items with
  | nil =>
      rw [furtherItems, List.flatMap_nil, List.nil_append, List.append_assoc]
      exact .append lastBlank (.token .closeArray trivial spelled)
  | cons item items inductionHypothesis =>
      obtain ⟨itemLaid, itemsLaid⟩ := List.forall_mem_cons.1 laid
      have text_eq :
          furtherItems gap lastGap lay (item :: items) ++ rest =
            Token.comma.chars ++
              (gap ++ (lay item ++ (furtherItems gap lastGap lay items ++ rest))) := by
        simp [furtherItems, Token.chars]
      rw [text_eq]
      simp only [tokensOfItems, List.cons_append, List.append_assoc]
      refine .token .comma trivial (.append blank ?_)
      exact itemLaid _ _ (inductionHypothesis itemsLaid)
        (endsBefore_furtherItems lastBlank items rest)

/-- The text of an array, with any blanks around its items. -/
theorem laid_array
    (blank : gap.all isSpace = true)
    (lastBlank : lastGap.all isSpace = true)
    {item : Json}
    {items : List Json}
    (laid : ∀ other ∈ item :: items, Laid other (lay other)) :
    Laid (.array (item :: items))
      ('[' :: gap ++ lay item ++ furtherItems gap lastGap lay items) := by
  intro tokens rest spelled _
  obtain ⟨itemLaid, itemsLaid⟩ := List.forall_mem_cons.1 laid
  simp only [Json.tokens, List.cons_append, List.append_assoc]
  refine .token .openArray trivial (.append blank ?_)
  exact itemLaid _ _ (spells_furtherItems blank lastBlank itemsLaid spelled)
    (endsBefore_furtherItems lastBlank items rest)

/-- The text of a member of an object. -/
def memberText (space : List Char) (lay : Json → List Char) (member : List Char × Json) :
    List Char :=
  '"' :: member.1 ++ '"' :: ':' :: space ++ lay member.2

/-- The text of the further members of an object, up to its end. -/
def furtherMembers
    (gap lastGap space : List Char)
    (lay : Json → List Char)
    (members : List (List Char × Json)) : List Char :=
  members.flatMap (fun member => ',' :: gap ++ memberText space lay member) ++ lastGap ++ ['\x7d']

theorem endsBefore_furtherMembers
    (blank : lastGap.all isSpace = true)
    (members : List (List Char × Json))
    (rest : List Char) :
    Number.EndsBefore (furtherMembers gap lastGap space lay members ++ rest) := by
  cases members with
  | nil =>
      rw [furtherMembers, List.flatMap_nil, List.nil_append, List.append_assoc]
      exact Number.endsBefore_append blank (Number.endsBefore_cons (by decide) _)
  | cons => exact Number.endsBefore_cons (by decide) _

/-- The text of a member spells its name, a colon and its value. -/
theorem spells_memberText
    (blank : space.all isSpace = true)
    {member : List Char × Json}
    (isLexeme : Literal.IsLexeme member.1)
    (laid : Laid member.2 (lay member.2))
    {tokens : List Token}
    {rest : List Char}
    (spelled : Spells tokens rest)
    (ends : Number.EndsBefore rest) :
    Spells (.string member.1 :: .colon :: (member.2.tokens ++ tokens))
      (memberText space lay member ++ rest) := by
  have text_eq :
      memberText space lay member ++ rest =
        (Token.string member.1).chars ++
          (Token.colon.chars ++ (space ++ (lay member.2 ++ rest))) := by
    simp [memberText, Token.chars]
  rw [text_eq]
  exact .token (.string member.1) isLexeme
    (.token .colon trivial (.append blank (laid _ _ spelled ends)))

/-- The text from behind a member to the end of an object spells its tokens. -/
theorem spells_furtherMembers
    (blank : gap.all isSpace = true)
    (lastBlank : lastGap.all isSpace = true)
    (spaceBlank : space.all isSpace = true)
    {members : List (List Char × Json)}
    (areLexemes : ∀ member ∈ members, Literal.IsLexeme member.1)
    (laid : ∀ member ∈ members, Laid member.2 (lay member.2))
    {tokens : List Token}
    {rest : List Char}
    (spelled : Spells tokens rest) :
    Spells (tokensOfMembers members ++ tokens)
      (furtherMembers gap lastGap space lay members ++ rest) := by
  induction members with
  | nil =>
      rw [furtherMembers, List.flatMap_nil, List.nil_append, List.append_assoc]
      exact .append lastBlank (.token .closeObject trivial spelled)
  | cons member members inductionHypothesis =>
      obtain ⟨isLexeme, areLexemes⟩ := List.forall_mem_cons.1 areLexemes
      obtain ⟨memberLaid, membersLaid⟩ := List.forall_mem_cons.1 laid
      have text_eq :
          furtherMembers gap lastGap space lay (member :: members) ++ rest =
            Token.comma.chars ++ (gap ++ (memberText space lay member ++
              (furtherMembers gap lastGap space lay members ++ rest))) := by
        simp [furtherMembers, Token.chars]
      rw [text_eq]
      simp only [tokensOfMembers, List.cons_append, List.append_assoc]
      refine .token .comma trivial (.append blank ?_)
      exact spells_memberText spaceBlank isLexeme memberLaid
        (inductionHypothesis areLexemes membersLaid)
        (endsBefore_furtherMembers lastBlank members rest)

/-- The text of an object, with any blanks around its members and behind its colons. -/
theorem laid_object
    (blank : gap.all isSpace = true)
    (lastBlank : lastGap.all isSpace = true)
    (spaceBlank : space.all isSpace = true)
    {member : List Char × Json}
    {members : List (List Char × Json)}
    (areLexemes : ∀ other ∈ member :: members, Literal.IsLexeme other.1)
    (laid : ∀ other ∈ member :: members, Laid other.2 (lay other.2)) :
    Laid (.object (member :: members))
      ('\x7b' :: gap ++ memberText space lay member ++
        furtherMembers gap lastGap space lay members) := by
  intro tokens rest spelled _
  obtain ⟨isLexeme, areLexemes⟩ := List.forall_mem_cons.1 areLexemes
  obtain ⟨memberLaid, membersLaid⟩ := List.forall_mem_cons.1 laid
  simp only [Json.tokens, List.cons_append, List.append_assoc]
  refine .token .openObject trivial (.append blank ?_)
  exact spells_memberText spaceBlank isLexeme memberLaid
    (spells_furtherMembers blank lastBlank spaceBlank areLexemes membersLaid spelled)
    (endsBefore_furtherMembers lastBlank members rest)

end

theorem flatMap_chars_tokensOfItems (items : List Json) :
    (tokensOfItems items).flatMap Token.chars = furtherItems [] [] chars items := by
  induction items with
  | nil => rfl
  | cons item items inductionHypothesis =>
      rw [tokensOfItems, List.cons_append, List.flatMap_cons, List.flatMap_append,
        inductionHypothesis]
      simp [furtherItems, chars, Token.chars]

theorem flatMap_chars_tokensOfMembers (members : List (List Char × Json)) :
    (tokensOfMembers members).flatMap Token.chars = furtherMembers [] [] [] chars members := by
  induction members with
  | nil => rfl
  | cons member members inductionHypothesis =>
      simp [tokensOfMembers, furtherMembers, memberText, chars, Token.chars, inductionHypothesis]

theorem indentedItems_eq (level : Nat) (items : List Json) :
    indentedItems level items =
      furtherItems (lineBreak (level + 1)) (lineBreak level) (indented (level + 1)) items := by
  induction items with
  | nil => simp [indentedItems, furtherItems]
  | cons item items inductionHypothesis =>
      simp [indentedItems, furtherItems, inductionHypothesis]

theorem indentedMembers_eq (level : Nat) (members : List (List Char × Json)) :
    indentedMembers level members =
      furtherMembers (lineBreak (level + 1)) (lineBreak level) [' '] (indented (level + 1))
        members := by
  induction members with
  | nil => simp [indentedMembers, furtherMembers]
  | cons member members inductionHypothesis =>
      simp [indentedMembers, furtherMembers, memberText, inductionHypothesis]

theorem chars_array (item : Json) (items : List Json) :
    (array (item :: items)).chars =
      '[' :: [] ++ item.chars ++ furtherItems [] [] chars items := by
  rw [← flatMap_chars_tokensOfItems]
  simp [chars, tokens, Token.chars]

theorem chars_object (member : List Char × Json) (members : List (List Char × Json)) :
    (object (member :: members)).chars =
      '\x7b' :: [] ++ memberText [] chars member ++ furtherMembers [] [] [] chars members := by
  rw [← flatMap_chars_tokensOfMembers]
  simp [chars, tokens, memberText, Token.chars]

/-- The text without blanks is one for the value. -/
theorem Written.laid_chars {value : Json} (written : value.Written) : value.Laid value.chars := by
  induction written with
  | null => exact fun _ _ spelled _ => .token .null trivial spelled
  | bool value =>
      intro tokens rest spelled _
      simpa [chars, Json.tokens] using Spells.token (.bool value) trivial spelled
  | @number lexeme isLexeme =>
      intro tokens rest spelled ends
      simpa [chars, Json.tokens, Token.chars] using
        Spells.token (.number lexeme) ⟨isLexeme, ends⟩ spelled
  | @string lexeme isLexeme =>
      intro tokens rest spelled _
      simpa [chars, Json.tokens, Token.chars] using
        Spells.token (.string lexeme) isLexeme spelled
  | @array items _ inductionHypothesis =>
      cases items with
      | nil =>
          exact fun _ _ spelled _ =>
            .token .openArray trivial (.token .closeArray trivial spelled)
      | cons item items =>
          rw [chars_array]
          exact laid_array rfl rfl inductionHypothesis
  | @object members areLexemes _ inductionHypothesis =>
      cases members with
      | nil =>
          exact fun _ _ spelled _ =>
            .token .openObject trivial (.token .closeObject trivial spelled)
      | cons member members =>
          rw [chars_object]
          exact laid_object rfl rfl rfl areLexemes inductionHypothesis

theorem all_isSpace_lineBreak (level : Nat) : (lineBreak level).all isSpace = true := by
  simp [lineBreak, isSpace]

/-- The indented text is one for the value. -/
theorem Written.laid_indented {value : Json} (written : value.Written) :
    ∀ level, value.Laid (value.indented level) := by
  induction written with
  | null => exact fun _ => Written.null.laid_chars
  | bool value => exact fun _ => (Written.bool value).laid_chars
  | number isLexeme => exact fun _ => (Written.number isLexeme).laid_chars
  | string isLexeme => exact fun _ => (Written.string isLexeme).laid_chars
  | @array items _ inductionHypothesis =>
      intro level
      cases items with
      | nil => exact (show Written (.array []) from .array (by simp)).laid_chars
      | cons item items =>
          rw [indented, indentedItems_eq]
          exact laid_array (all_isSpace_lineBreak _) (all_isSpace_lineBreak _)
            fun other listed => inductionHypothesis other listed (level + 1)
  | @object members areLexemes _ inductionHypothesis =>
      intro level
      cases members with
      | nil => exact (show Written (.object []) from .object (by simp) (by simp)).laid_chars
      | cons member members =>
          have text_eq :
              (Json.object (member :: members)).indented level =
                '\x7b' :: lineBreak (level + 1) ++
                  memberText [' '] (indented (level + 1)) member ++
                  furtherMembers (lineBreak (level + 1)) (lineBreak level) [' ']
                    (indented (level + 1)) members := by
            rw [← indentedMembers_eq]
            simp [indented, memberText]
          rw [text_eq]
          exact laid_object (all_isSpace_lineBreak _) (all_isSpace_lineBreak _) rfl areLexemes
            fun other listed => inductionHypothesis other listed (level + 1)

/-! ## Values from their tokens -/

namespace Reader

/-- The first token of a value does not end the array that it stands in. -/
theorem foldlM_firstItem (frames : List Frame) (value : Json) :
    value.tokens.foldlM step ⟨frames, .firstItem⟩ =
      value.tokens.foldlM step ⟨.items [] :: frames, .value⟩ := by
  cases value with
  | null | bool | number | string => rfl
  | array items => cases items <;> rfl
  | object members => cases members <;> rfl

mutual

/-- Behind the tokens of a value stands the reader that has read the value. -/
theorem foldlM_tokens (frames : List Frame) : (value : Json) →
    value.tokens.foldlM step ⟨frames, .value⟩ = some ⟨frames, .after value⟩
  | null => rfl
  | .bool _ => rfl
  | number _ => rfl
  | string _ => rfl
  | array [] => rfl
  | array (item :: items) => by
      have first := (foldlM_firstItem frames item).trans (foldlM_tokens (.items [] :: frames) item)
      have further := foldlM_tokensOfItems frames [] item items
      simpa [tokens, step, beginValue, first] using further
  | object [] => rfl
  | object ((name, value) :: members) => by
      have first := foldlM_tokens (.members [] name :: frames) value
      have further := foldlM_tokensOfMembers frames [] name value members
      simpa [tokens, step, beginValue, first] using further
termination_by structural value => value

theorem foldlM_tokensOfItems (frames : List Frame) (done : List Json) (last : Json) :
    (items : List Json) →
      (tokensOfItems items).foldlM step ⟨.items done :: frames, .after last⟩ =
        some ⟨frames, .after (.array ((last :: done).reverse ++ items))⟩
  | [] => by simp [tokensOfItems, step, afterValue]
  | item :: items => by
      have next := foldlM_tokens (.items (last :: done) :: frames) item
      have further := foldlM_tokensOfItems frames (last :: done) item items
      simpa [tokensOfItems, step, afterValue, next] using further
termination_by structural items => items

theorem foldlM_tokensOfMembers
    (frames : List Frame)
    (done : List (List Char × Json))
    (lastName : List Char)
    (last : Json) :
    (members : List (List Char × Json)) →
      (tokensOfMembers members).foldlM step ⟨.members done lastName :: frames, .after last⟩ =
        some ⟨frames, .after (.object (((lastName, last) :: done).reverse ++ members))⟩
  | [] => by simp [tokensOfMembers, step, afterValue]
  | (name, value) :: members => by
      have next := foldlM_tokens (.members ((lastName, last) :: done) name :: frames) value
      have further := foldlM_tokensOfMembers frames ((lastName, last) :: done) name value members
      simpa [tokensOfMembers, step, afterValue, next] using further
termination_by structural members => members

end

end Reader

/-- A value is read back from its tokens. -/
theorem ofTokens?_tokens (value : Json) : ofTokens? value.tokens = some value := by
  rw [ofTokens?, Reader.start, Reader.foldlM_tokens]
  rfl

/-! ## Values from their text -/

/-- A value is read back from every layout of its text. -/
theorem ofText?_of_laid {value : Json} {text : List Char} (laid : value.Laid text) :
    ofText? (String.ofList text) = some value := by
  have spelled := laid [] [] .nil (by simp [Number.EndsBefore])
  rw [List.append_nil, List.append_nil] at spelled
  rw [ofText?, String.toList_ofList, Token.ofText?_of_spells spelled, Option.bind_some,
    ofTokens?_tokens]

/-- A value is read back from its text without blanks. -/
theorem Written.ofText?_text {value : Json} (written : value.Written) :
    ofText? value.text = some value :=
  ofText?_of_laid written.laid_chars

/-- A value is read back from its indented text. -/
theorem Written.ofText?_indentedText {value : Json} (written : value.Written) :
    ofText? value.indentedText = some value :=
  ofText?_of_laid (written.laid_indented 0)

end FlightRule.Json
