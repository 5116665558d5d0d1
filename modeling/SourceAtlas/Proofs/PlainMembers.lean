import SourceAtlas.Proofs.PlainPhrases

/-!
Fields and bodies of plain declarations, parsed.

A class and an interface read their members by different rules, which try other phrases first. On a
field both come down to the rule for members with a name, so a body is followed once for any rule
that takes fields and refuses the closing bracket.
-/

open SourceAtlas.TypeScript SourceAtlas.TypeScript.Parser

namespace SourceAtlas.Plain

variable (grammar : Grammar) (passed : List Char) (lexemes : List Lexeme)

/-! Modifiers. -/

/-- Words that mean something in front of a member. -/
def memberWords : List String :=
  softModifiers ++ firmModifiers ++ ["new"]

theorem field_name_free (name : FieldName) : name.text ∉ memberWords :=
  name.not_among _ (by decide)

theorem modifier_refuses_word (gap : Gap) (name : Word) (free : name.text ∉ memberWords)
    (spaced : Spaced lexemes) :
    memberModifier (Place.facing passed (.word gap name :: lexemes)) = none := by
  simp only [memberWords, List.mem_append, not_or] at free
  simp [memberModifier, spaced, Token.isAnyWord, free.1.1, free.1.2]

theorem modifier_refuses_mark (gap : Gap) (sign : Sign) (spaced : Spaced lexemes) :
    memberModifier (Place.facing passed (.mark gap sign :: lexemes)) = none := by
  simp [memberModifier, spaced, Token.isAnyWord]

theorem keyword_takes (keyword name : Word)
    (access : keyword.text ∈ ["public", "private", "protected"]) (spaced : Spaced lexemes)
    (free : name.text ∉ memberWords) :
    ∃ nodes, Takes (many memberModifier) passed [.word .indented keyword]
        (.word .spaced name :: lexemes) nodes ∧
      List.Forall₂ Grants [keyword.text] nodes := by
  have soft : keyword.text ∈ softModifiers := by
    simp [softModifiers] at access ⊢
    rcases access with same | same | same <;> simp [same]
  let token := (Lexeme.word .indented keyword).token passed (.word .spaced name :: lexemes)
  have taken : Takes memberModifier passed [.word .indented keyword] (.word .spaced name :: lexemes)
      (modifierNode token) := by
    simp [Takes, memberModifier, spaced, Token.isAnyWord, soft, startsMemberName, Gap.chars,
      endsLine, token]
  refine ⟨[modifierNode token], ?_, .cons ?_ .nil⟩
  · refine many_takes_cons memberModifier passed [.word .indented keyword] []
      (.word .spaced name :: lexemes) (modifierNode token) [] (by simp [Lexeme.spelled, Gap.chars])
      taken ?_
    exact many_takes_none memberModifier _ _ (modifier_refuses_word _ _ _ _ free spaced)
  · have node : modifierNode token =
        { token.node "accessibility_modifier" with children := [token.plain] } := by
      simp [modifierNode, token, Token.isAnyWord, access]
    rw [node]
    exact ⟨⟨rfl, rfl, rfl, by simp [Token.plain, Token.node]⟩, rfl⟩

theorem modifiers_take (field : Field) (spaced : Spaced lexemes) :
    ∃ nodes, Takes (many memberModifier) passed field.keywordLexemes
        (.word field.gap (fieldWord field.name) :: lexemes) nodes ∧
      List.Forall₂ Grants (accessWords field.visibility) nodes := by
  obtain ⟨visibility, name⟩ := field
  have free := field_name_free name
  cases visibility with
  | pub =>
      refine ⟨[], ?_, .nil⟩
      exact many_takes_none _ _ _ (modifier_refuses_word passed lexemes _ _ free spaced)
  | priv =>
      exact keyword_takes passed lexemes privateWord (fieldWord name) (by decide) spaced free
  | prot =>
      exact keyword_takes passed lexemes protectedWord (fieldWord name) (by decide) spaced free

/-! The type of a field. -/

theorem ascription_takes (inner : Grammar) (ties : Ties grammar inner) (spaced : Spaced lexemes) :
    ∃ node, Takes (ascription grammar) passed [.mark .joined .colon, .word .spaced numberWord]
        (.mark .joined .semicolon :: lexemes) node ∧
      Annotates node := by
  let colon := (Lexeme.mark .joined .colon).token passed
    (.word .spaced numberWord :: .mark .joined .semicolon :: lexemes)
  let type := typeNode ((Lexeme.word .spaced numberWord).token
    (passed ++ (Lexeme.mark .joined .colon).spelled) (.mark .joined .semicolon :: lexemes))
  have taken := type_takes inner (passed ++ (Lexeme.mark .joined .colon).spelled) lexemes .spaced
    .joined numberWord .semicolon spaced (by decide)
  -- The node has the text from the colon on, which is cut from the source and not put together.
  have covered : colon.start.upTo (Cursor.along
      (passed ++ spell [.mark .joined .colon, .word .spaced numberWord])
      (spell (.mark .joined .semicolon :: lexemes))) = ": number".toList := by
    have start : colon.start = Cursor.along passed
        (": number".toList ++ spell (.mark .joined .semicolon :: lexemes)) := by
      simp [colon, Lexeme.token, Gap.chars, Sign.text, Lexeme.spelled]
    rw [start]
    exact Cursor.up_to_along passed ": number".toList _
  let node : RawNode :=
    { nodeWith colon.start "type_annotation" [type] with text := ": number" }
  have number : Spells "predefined_type" "number" type := spells_leaf
    ((Lexeme.word .spaced numberWord).token (passed ++ (Lexeme.mark .joined .colon).spelled)
      (.mark .joined .semicolon :: lexemes)) _
  have holds := holds_made colon.start "type_annotation" [type] (by simp [number.named])
  refine ⟨node, ?_, rfl, type, number, ⟨rfl, rfl, holds.parts, holds.between⟩⟩
  · simp at covered
    simp [Takes, ascription, coveringNode, spaced, Sign.text, ties.full, taken, oneWordType,
      covered, colon, type, node]

/-! Fields. -/

theorem field_named (type : String) (field : Field) (node : RawNode)
    (pictured : FieldTree type field node) : node.named = true := by
  obtain ⟨_, _, _, _, _, _, holds⟩ := pictured
  exact holds.named

theorem field_made (type : String) (field : Field) (start : Cursor) (access : List RawNode)
    (name typing : RawNode)
    (granted : List.Forall₂ Grants (accessWords field.visibility) access)
    (named : Spells "property_identifier" field.name.text name) (annotates : Annotates typing) :
    FieldTree type field
      (nodeWith start type (access ++ [name.under "name", typing.under "type"])) := by
  obtain ⟨_, _, held⟩ := annotates.holds
  refine ⟨access, name, typing, granted, named, annotates, holds_made _ _ _ ?_⟩
  simp only [List.mem_append, List.mem_cons, List.not_mem_nil, or_false]
  rintro part (accessed | rfl | rfl)
  · exact every_node _ _ granted (fun _ _ grants => grants.spells.named) part accessed
  · exact named.named
  · exact held.named

theorem named_member_takes (inner : Grammar) (ties : Ties grammar inner) (type : String)
    (field : Field) (spaced : Spaced lexemes) :
    ∃ node, Takes (namedMember grammar type) passed field.memberLexemes
        (.mark .joined .semicolon :: lexemes) node ∧
      FieldTree type field node := by
  let ascribed := [Lexeme.mark .joined .colon, .word .spaced numberWord]
  let behind := passed ++ spell field.keywordLexemes
  obtain ⟨modifiers, modified, listed⟩ := modifiers_take passed
    (ascribed ++ .mark .joined .semicolon :: lexemes) field (by simpa [ascribed] using spaced)
  obtain ⟨typing, typed, annotates⟩ := ascription_takes grammar
    (behind ++ (Lexeme.word field.gap (fieldWord field.name)).spelled) lexemes inner ties spaced
  let start := (Place.facing passed
    (field.memberLexemes ++ .mark .joined .semicolon :: lexemes)).token.start
  let name := ((Lexeme.word field.gap (fieldWord field.name)).token behind
    (ascribed ++ .mark .joined .semicolon :: lexemes)).node "property_identifier"
  have named : Spells "property_identifier" field.name.text name := spells_leaf
    ((Lexeme.word field.gap (fieldWord field.name)).token behind
      (ascribed ++ .mark .joined .semicolon :: lexemes)) _
  refine ⟨_, ?_, field_made type field start modifiers name typing listed named annotates⟩
  rw [Takes] at modified typed ⊢
  simp [ascribed, behind] at modified typed
  simp [namedMember, Field.memberLexemes, modified, memberName, opensSignature, fieldNode, spaced,
    Token.isMarkOf, Sign.text, Grammar.initial, typed, ascribed, behind, start, name, part]

theorem index_member_refuses (field : Field) (spaced : Spaced lexemes) :
    indexMember grammar (Place.facing passed (field.memberLexemes ++ lexemes)) = none := by
  obtain ⟨modifiers, modified, _⟩ := modifiers_take passed
    (.mark .joined .colon :: .word .spaced numberWord :: lexemes) field (by simpa using spaced)
  have free := field_name_free field.name
  rw [Takes] at modified
  simp [memberWords, softModifiers, firmModifiers] at free
  simp [indexMember, Field.memberLexemes, modified, mappingSign, spaced, Sign.text, free]

/-! The rules for members of classes and of interfaces. -/

/-- What can stand behind a member: nothing that belongs to the member before it. -/
def Between (rest : List Lexeme) : Prop :=
  Spaced rest ∧ ∀ passed, separator (Place.facing passed rest) = none

theorem field_starts (field : Field) (rest : List Lexeme) (spaced : Spaced rest) :
    ∃ first more, field.memberLexemes ++ rest = .word .indented first :: more ∧ Spaced more ∧
      first.text ∉ ["static", "abstract", "new"] := by
  obtain ⟨visibility, name⟩ := field
  cases visibility with
  | pub => exact ⟨fieldWord name, _, rfl, by simpa using spaced, name.not_among _ (by decide)⟩
  | priv => exact ⟨privateWord, _, rfl, by simpa [Field.gap] using spaced, by decide⟩
  | prot => exact ⟨protectedWord, _, rfl, by simpa [Field.gap] using spaced, by decide⟩

section AtField

variable (field : Field) (rest : List Lexeme) (spaced : Spaced rest)

include spaced

theorem decorator_refuses_field :
    decorator grammar (Place.facing passed (field.memberLexemes ++ rest)) = none := by
  obtain ⟨first, more, starts, spaced, _⟩ := field_starts field rest spaced
  rw [starts]
  simp [decorator_refuses, spaced]

theorem static_block_refuses_field :
    staticBlock grammar (Place.facing passed (field.memberLexemes ++ rest)) = none := by
  obtain ⟨first, more, starts, spaced, other⟩ := field_starts field rest spaced
  rw [starts]
  simp at other
  simp [staticBlock, spaced, other]

theorem bare_signature_refuses_field :
    bareSignature grammar (Place.facing passed (field.memberLexemes ++ rest)) = none := by
  obtain ⟨first, more, starts, spaced, other⟩ := field_starts field rest spaced
  rw [starts]
  simp at other
  simp [bareSignature, signature_refuses, spaced, other]

theorem separator_refuses_field :
    separator (Place.facing passed (field.memberLexemes ++ rest)) = none := by
  obtain ⟨first, more, starts, spaced, _⟩ := field_starts field rest spaced
  rw [starts]
  simp [separator, spaced]

end AtField

theorem separators_take (rest : List Lexeme) (between : Between rest) :
    ∃ tokens, Takes (many separator) passed [.mark .joined .semicolon] rest tokens := by
  refine ⟨[(Lexeme.mark .joined .semicolon).token passed rest], ?_⟩
  refine many_takes_cons separator passed [.mark .joined .semicolon] [] rest _ []
    (by simp [Lexeme.spelled, Sign.text]) ?_ (many_takes_none separator _ rest (between.2 _))
  simp [Takes, separator, between.1, Sign.text]

/-- Both rules for members, once what they try first has refused. They differ in the type of the
node. -/
theorem member_takes (inner : Grammar) (ties : Ties grammar inner) (field : Field)
    (rest : List Lexeme) (between : Between rest) :
    (∃ node, Takes (classMember grammar) passed field.lexemes rest node ∧
        FieldTree "public_field_definition" field node) ∧
      ∃ node, Takes (typeMember grammar) passed field.lexemes rest node ∧
        FieldTree "property_signature" field node := by
  have spaced : Spaced (.mark .joined .semicolon :: rest) := by simpa using between.1
  have named := named_member_takes grammar passed rest inner ties
  obtain ⟨classField, classTaken, classTree⟩ := named "public_field_definition" field between.1
  obtain ⟨typeField, typeTaken, typeTree⟩ := named "property_signature" field between.1
  obtain ⟨tokens, ended⟩ := separators_take (passed ++ spell field.memberLexemes) rest between
  have indexed := index_member_refuses grammar passed _ field spaced
  have decorated := decorator_refuses_field grammar passed field _ spaced
  have static := static_block_refuses_field grammar passed field _ spaced
  have bare := bare_signature_refuses_field grammar passed field _ spaced
  have separate := many_stops separator _ (separator_refuses_field passed field _ spaced)
  rw [Takes] at classTaken typeTaken ended
  simp at ended
  refine ⟨⟨classField, ?_, classTree⟩, typeField, ?_, typeTree⟩
  · simp [Takes, Field.lexemes, classMember, decorated, static, indexed, classTaken, ended]
  · simp [Takes, Field.lexemes, typeMember, separate, bare, indexed, typeTaken, ended]

theorem members_stop (gap : Gap) (spaced : Spaced lexemes) :
    classMember grammar (Place.facing passed (.mark gap .closing :: lexemes)) = none ∧
      typeMember grammar (Place.facing passed (.mark gap .closing :: lexemes)) = none := by
  have separators := many_stops separator (Place.facing passed (.mark gap .closing :: lexemes))
    (by simp [separator, spaced, Sign.text])
  have modifiers := many_stops memberModifier _
    (modifier_refuses_mark passed lexemes gap .closing spaced)
  have indexed : indexMember grammar (Place.facing passed (.mark gap .closing :: lexemes)) =
      none := by
    simp [indexMember, modifiers, mappingSign, spaced, Sign.text]
  have named (type : String) :
      namedMember grammar type (Place.facing passed (.mark gap .closing :: lexemes)) = none := by
    simp [namedMember, modifiers, memberName, spaced, Sign.text]
  constructor
  · simp [classMember, decorator_refuses, staticBlock, indexed, named, spaced]
  · simp [typeMember, separators, bareSignature, signature_refuses, indexed, named, spaced]

/-! Bodies. -/

theorem between_closing (gap : Gap) (spaced : Spaced lexemes) :
    Between (.mark gap .closing :: lexemes) := by
  refine ⟨by simpa using spaced, fun passed => ?_⟩
  simp [separator, spaced, Sign.text]

theorem between_field (field : Field) (rest : List Lexeme) (between : Between rest) :
    Between (field.lexemes ++ rest) := by
  refine ⟨by simpa using between.1, fun passed => ?_⟩
  rw [Field.lexemes, List.append_assoc]
  exact separator_refuses_field passed field _ (by simpa using between.1)

theorem body_takes (type fieldType : String) (member : Parser RawNode)
    (each : ∀ passed field rest, Between rest →
      ∃ node, Takes member passed field.lexemes rest node ∧ FieldTree fieldType field node)
    (stops : ∀ passed rest, Spaced rest →
      member (Place.facing passed (.mark .broken .closing :: rest)) = none)
    (fields : List Field) (spaced : Spaced lexemes) :
    ∃ members node, Takes (Grammar.body type (separatorNode <|> member)) passed
        (bodyLexemes fields) lexemes node ∧
      List.Forall₂ (FieldTree fieldType) fields members ∧ Holds type members node := by
  let item := (separatorNode <|> member) <|> Grammar.passOver
  have between := between_closing lexemes .broken spaced
  have solid : ∀ field : Field, spell field.lexemes ≠ [] := by
    intro field
    simp [Field.lexemes, Field.memberLexemes, Lexeme.spelled]
  have step : ∀ before field rest, Between rest →
      ∃ node, Takes item before field.lexemes rest node ∧ FieldTree fieldType field node := by
    intro before field rest between
    obtain ⟨node, taken, pictured⟩ := each before field rest between
    have separate := (between_field field rest between).2 before
    refine ⟨node, ?_, pictured⟩
    rw [Takes] at taken ⊢
    simp [item, separatorNode, separate, taken]
  -- The closing bracket is the one mark that is not passed over as a stray token.
  have refused : ∀ before, item (Place.facing before (.mark .broken .closing :: lexemes)) =
      none := by
    intro before
    simp [item, separatorNode, between.2 before, stops before lexemes spaced, Grammar.passOver,
      spaced, Token.isMarkOf, Sign.text]
  obtain ⟨members, taken, pictured⟩ := many_takes item Field.lexemes (FieldTree fieldType) Between
    solid step between_field (passed ++ (Lexeme.mark .spaced .opening).spelled) fields _ between
    refused
  let start := ((Lexeme.mark .spaced .opening).token passed
    (fields.flatMap Field.lexemes ++ .mark .broken .closing :: lexemes)).start
  refine ⟨members, nodeWith start type members, ?_, pictured, holds_made _ _ _ ?_⟩
  · rw [Takes] at taken ⊢
    simp [item] at taken
    simp [bodyLexemes, Grammar.body, spaced, Sign.text, taken, Grammar.closeBody, start]
  · exact every_node _ _ pictured (field_named fieldType)

end SourceAtlas.Plain
