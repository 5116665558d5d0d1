import Mathlib
import SourceAtlas.Proofs.DrawnLines

/-!
The lines of a class diagram. Members and their types, multiplicities and labels may hold line
breaks and the words of the diagram language, and still a block is opened only where an entity asks
for one.
-/

open SourceAtlas.Text

namespace SourceAtlas.ClassDiagram

theorem choice_inline (flag : Bool) (text : String) (inline : Inline text.toList) :
    Inline (if flag then text else "").toList := by
  cases flag with
  | false => simp
  | true => exact inline

theorem sign_inline (visibility : Visibility) : Inline visibility.sign.toString.toList := by
  cases visibility <;> decide

theorem property_line_sign (property : Property) :
    (propertyLine property).toList.head? = some property.visibility.sign := by
  simp [propertyLine]

theorem method_line_sign (method : Method) :
    (methodLine method).toList.head? = some method.visibility.sign := by
  simp [methodLine]

theorem property_line_inline (property : Property) : Inline (propertyLine property).toList := by
  simp only [propertyLine, String.toList_append, inline_append]
  refine ⟨⟨⟨⟨⟨?sign, ?readonly⟩, ?name⟩, ?colon⟩, ?type⟩, ?shared⟩
  case sign => exact sign_inline property.visibility
  case readonly => exact choice_inline _ _ (by decide)
  case name => exact member_text_inline property.name
  case colon => decide
  case type => exact member_text_inline property.type
  case shared => exact choice_inline _ _ (by decide)

theorem parameter_text_inline (parameter : Parameter) :
    Inline (parameterText parameter).toList := by
  simp only [parameterText, String.toList_append, inline_append]
  refine ⟨⟨⟨?name, ?optional⟩, ?colon⟩, ?type⟩
  case name => exact member_text_inline parameter.name
  case optional => exact choice_inline _ _ (by decide)
  case colon => decide
  case type => exact member_text_inline parameter.type

theorem parameters_inline (parameters : List Parameter) :
    Inline (", ".intercalate (parameters.map parameterText)).toList := by
  rw [String.toList_intercalate]
  apply inline_intercalate
  · decide
  · intro part member
    simp only [List.map_map, List.mem_map] at member
    obtain ⟨parameter, _, same⟩ := member
    subst same
    exact parameter_text_inline parameter

theorem method_line_inline (method : Method) : Inline (methodLine method).toList := by
  simp only [methodLine, String.toList_append, inline_append]
  refine ⟨⟨⟨⟨⟨⟨⟨?sign, ?name⟩, ?opening⟩, ?parameters⟩, ?closing⟩, ?result⟩, ?shared⟩, ?bodiless⟩
  case sign => exact sign_inline method.visibility
  case name => exact member_text_inline method.name
  case opening => decide
  case parameters => exact parameters_inline method.parameters
  case closing => decide
  case result => exact member_text_inline method.returnType
  case shared => exact choice_inline _ _ (by decide)
  case bodiless => exact choice_inline _ _ (by decide)

theorem members_inline (entity : Entity) :
    ∀ text ∈ entity.properties.map propertyLine ++ entity.methods.map methodLine,
      Inline text.toList := by
  simp only [List.forall_mem_append, List.forall_mem_map]
  constructor
  · intro property _
    exact property_line_inline property
  · intro method _
    exact method_line_inline method

theorem multiplicity_inline (multiplicity : String) :
    Inline (multiplicityText multiplicity).toList := by
  rw [multiplicityText, String.toList_ofList]
  intro c member
  obtain ⟨source, inLine, same⟩ := List.mem_map.mp member
  split at same
  · subst same
    decide
  · subst same
    exact single_line_inline multiplicity source inLine

/-- What follows the token of an edge: the multiplicity, the other end and the label. -/
def edgeTail (relationship : Relationship) : Line :=
  ((relationship.multiplicity.map fun text => [" \"", multiplicityText text, "\""]).getD []) ++
    [" ", identifier relationship.target] ++
    ((labelText? relationship.label).map fun text => [" : ", text]).getD []

theorem edge_tail_inline (relationship : Relationship) :
    ∀ piece ∈ edgeTail relationship, Inline piece.toList := by
  rw [edgeTail, List.forall_mem_append, List.forall_mem_append]
  refine ⟨⟨?_, ?_⟩, ?_⟩
  · cases relationship.multiplicity with
    | none => simp
    | some text => simpa using ⟨by decide, multiplicity_inline text, by decide⟩
  · simpa using ⟨by decide, word_inline _ (identifier_word relationship.target)⟩
  · cases given : labelText? relationship.label with
    | none => simp
    | some text =>
        have inline := label_written_inline singleLine single_line_inline _ text given
        simpa using ⟨by decide, inline⟩

theorem edge_reads (relationship : Relationship) :
    Reads (edgeLine relationship) (edgeBody (identifier relationship.source)
      (edgeToken relationship.kind) (edgeTail relationship)) := by
  have token : Inline (edgeToken relationship.kind).toList := by
    cases relationship.kind <;> decide
  have reads := edge_body_reads (identifier relationship.source) (edgeToken relationship.kind)
    (edgeTail relationship) (identifier_word relationship.source) token
    (edge_tail_inline relationship)
  simpa [edgeLine, edgeTail] using reads

theorem opening_reads (name : String) :
    Reads [indent, "class ", identifier name, " \x7b\n"]
      (indent.toList ++
        ("class".toList ++ ' ' :: ((identifier name).toList ++ " \x7b".toList))) := by
  have inline : ∀ piece ∈ [indent, "class ", identifier name], Inline piece.toList := by
    simpa using ⟨by decide, by decide, word_inline _ (identifier_word name)⟩
  have reads := reads_closed _ " \x7b" inline (by decide)
  simpa using reads

-- The second indent leaves a blank where the first word of an edge or a block would be.
theorem member_reads (member : String) (inline : Inline member.toList) :
    Reads [indent, indent, member, "\n"]
      (indent.toList ++ ' ' :: ("   ".toList ++ member.toList)) := by
  have reads := reads_plain [indent, indent, member]
    (by simpa using ⟨by decide, inline⟩)
  simpa [indent] using reads

theorem stereotype_reads (stereotype : String) (entity : Entity)
    (shown : stereotype? entity = some stereotype) :
    Reads [indent, indent, "<<" ++ stereotype ++ ">>\n"]
      (indent.toList ++ ' ' :: ("   <<" ++ stereotype ++ ">>").toList) := by
  unfold stereotype? at shown
  split at shown
  · cases shown
    exact ⟨by decide, by decide⟩
  · split at shown
    · cases shown
      exact ⟨by decide, by decide⟩
    · cases shown

theorem direction_reads (direction : Direction) :
    Reads [indent, "direction ", direction.name, "\n"]
      (indent.toList ++ ("direction".toList ++ ' ' :: direction.name.toList)) := by
  cases direction <;> exact ⟨by decide, by decide⟩

theorem block_lined (entity : Entity) : ∀ line ∈ blockLines entity, ∃ body, Reads line body := by
  simp only [blockLines, List.forall_mem_append, List.forall_mem_singleton]
  refine ⟨⟨⟨?opening, ?stereotypes⟩, ?members⟩, ?closing⟩
  case opening => exact ⟨_, opening_reads entity.name⟩
  case stereotypes =>
    intro line member
    obtain ⟨stereotype, shown, same⟩ := List.mem_map.mp member
    subst same
    exact ⟨_, stereotype_reads stereotype entity (Option.mem_toList.mp shown)⟩
  case members =>
    intro line member
    obtain ⟨text, written, same⟩ := List.mem_map.mp member
    subst same
    exact ⟨_, member_reads text (members_inline entity text written)⟩
  case closing => exact ⟨indent.toList ++ ['\x7d'], by decide, by decide⟩

theorem draw_lined (analysis : Analysis) (options : EncodeOptions) :
    (draw analysis options).Lined := by
  simp only [Drawing.Lined, draw, List.forall_mem_append, List.forall_mem_singleton]
  refine ⟨⟨⟨⟨?keyword, ?directions⟩, titles_lined options⟩, ?blocks⟩, ?edges⟩
  case keyword => exact ⟨"classDiagram".toList, by decide, by decide⟩
  case directions =>
    intro line member
    obtain ⟨direction, _, same⟩ := List.mem_map.mp member
    subst same
    exact ⟨_, direction_reads direction⟩
  case blocks =>
    intro line member
    obtain ⟨entity, _, inside⟩ := List.mem_flatMap.mp member
    exact block_lined entity line inside
  case edges =>
    intro line member
    obtain ⟨relationship, _, same⟩ := List.mem_map.mp member
    subst same
    exact ⟨_, edge_reads relationship⟩

/-- A block is recognised by the line that opens it. -/
def isBlockLine (line : List Char) : Bool :=
  match leadingWord? line with
  | some (word, ' ' :: rest) =>
    word == "class".toList && !(rest.takeWhile isIdentifierChar).isEmpty &&
      rest.dropWhile isIdentifierChar == " \x7b".toList
  | _ => false

theorem opening_shape (id : List Char) :
    "    class ".toList ++ id ++ " \x7b".toList =
      indent.toList ++ ("class".toList ++ ' ' :: (id ++ " \x7b".toList)) := by
  rw [List.append_assoc]
  rfl

theorem block_line_iff (line : List Char) :
    isBlockLine line = true ↔
      ∃ id, Word id ∧ line = "    class ".toList ++ id ++ " \x7b".toList := by
  constructor
  · intro recognised
    unfold isBlockLine at recognised
    split at recognised
    · rename_i word rest found
      obtain ⟨split, _, _⟩ := (leading_word_iff line _ _).mp found
      simp only [Bool.and_eq_true, beq_iff_eq, Bool.not_eq_true', List.isEmpty_eq_false_iff]
        at recognised
      obtain ⟨⟨keyword, nonempty⟩, brace⟩ := recognised
      refine ⟨rest.takeWhile isIdentifierChar, ⟨nonempty, ?_⟩, ?_⟩
      · intro c member
        exact List.all_eq_true.mp List.all_takeWhile c member
      · rw [opening_shape, ← brace, List.takeWhile_append_dropWhile, split, keyword]
    · cases recognised
  · rintro ⟨id, isWord, split⟩
    have taken : (id ++ " \x7b".toList).takeWhile isIdentifierChar = id := by
      rw [List.takeWhile_append_of_pos isWord.2]
      exact List.append_nil id
    have dropped : (id ++ " \x7b".toList).dropWhile isIdentifierChar = " \x7b".toList := by
      rw [List.dropWhile_append_of_pos isWord.2]
      rfl
    have nonempty : id.isEmpty = false := by
      simpa using isWord.1
    rw [isBlockLine, split, opening_shape, leading_word_cons _ _ ' ' (by decide) (by decide)]
    simp only [taken, dropped, nonempty]
    decide

-- Every token holds a character that is neither part of a name nor of the opening of a block.
theorem token_not_name (kind : RelationshipKind) (id rest : List Char) (isWord : Word id)
    (split : (edgeToken kind).toList ++ rest = id ++ " \x7b".toList) : False := by
  have mark : (edgeToken kind).toList.any
      (fun c => !isIdentifierChar c && !" \x7b".toList.contains c) = true := by
    cases kind <;> decide
  obtain ⟨c, inToken, foreign⟩ := List.any_eq_true.mp mark
  rw [Bool.and_eq_true, Bool.not_eq_true', Bool.not_eq_true', List.contains_eq_mem,
    decide_eq_false_iff_not] at foreign
  obtain ⟨stops, outside⟩ := foreign
  have inside : c ∈ id ++ " \x7b".toList := by
    rw [← split]
    exact List.mem_append_left rest inToken
  rcases List.mem_append.mp inside with inName | inBrace
  · rw [isWord.2 c inName] at stops
    cases stops
  · exact outside inBrace

theorem opening_is_block (name : String) :
    isBlockLine (lineBody [indent, "class ", identifier name, " \x7b\n"]) = true := by
  rw [reads_body _ _ (opening_reads name)]
  apply (block_line_iff _).mpr
  exact ⟨_, identifier_word name, (opening_shape _).symm⟩

theorem opening_not_edge (name : String) :
    isEdgeLine edgeToken (lineBody [indent, "class ", identifier name, " \x7b\n"]) = false := by
  rw [reads_body _ _ (opening_reads name), isEdgeLine,
    leading_word_cons _ _ ' ' (by decide) (by decide)]
  apply List.any_eq_false.mpr
  intro kind _ found
  obtain ⟨rest, split⟩ := List.isPrefixOf_iff_prefix.mp found
  rw [List.cons_append, List.cons.injEq] at split
  exact token_not_name kind _ rest (identifier_word name) split.2

theorem edge_is_edge (relationship : Relationship) :
    isEdgeLine edgeToken (lineBody (edgeLine relationship)) = true := by
  rw [reads_body _ _ (edge_reads relationship)]
  exact edge_body_is_edge edgeToken relationship.kind _ _ (identifier_word relationship.source)

-- An entity may be named `class`, so the first word alone does not tell an edge from a block.
theorem edge_not_block (relationship : Relationship) :
    isBlockLine (lineBody (edgeLine relationship)) = false := by
  rw [reads_body _ _ (edge_reads relationship), Bool.eq_false_iff]
  intro recognised
  obtain ⟨id, isWord, split⟩ := (block_line_iff _).mp recognised
  have edge := leading_word_cons _ ((edgeToken relationship.kind).toList ++
    (edgeTail relationship).flatMap String.toList) ' ' (identifier_word relationship.source)
    (by decide)
  have block := leading_word_cons "class".toList (id ++ " \x7b".toList) ' ' (by decide) (by decide)
  rw [← edgeBody, split, opening_shape, block] at edge
  simp only [Option.some.injEq, Prod.mk.injEq, List.cons.injEq, true_and] at edge
  exact token_not_name relationship.kind id _ isWord edge.2.symm

theorem wordless_plain (body : List Char) (wordless : leadingWord? body = none) :
    isBlockLine body = false ∧ isEdgeLine edgeToken body = false := by
  simp [isBlockLine, isEdgeLine, wordless]

/-- Headers, directions and titles are neither blocks nor edges, whatever the title is. -/
theorem heading_plain (options : EncodeOptions) :
    ∀ line ∈ [[DiagramType.classes.keyword, "\n"]] ++ directionLines options ++ titleLines options,
      isBlockLine (lineBody line) = false ∧ isEdgeLine edgeToken (lineBody line) = false := by
  simp only [List.forall_mem_append, List.forall_mem_singleton]
  refine ⟨⟨⟨by decide, by decide⟩, ?directions⟩, ?titles⟩
  case directions =>
    intro line member
    obtain ⟨direction, _, same⟩ := List.mem_map.mp member
    subst same
    cases direction <;> exact ⟨by decide, by decide⟩
  case titles =>
    intro line member
    refine ⟨?_, titles_not_edge edgeToken options line member⟩
    obtain ⟨title, _, same⟩ := List.mem_map.mp member
    subst same
    rw [reads_body _ _ (title_reads title), isBlockLine,
      leading_word_cons _ _ ':' (by decide) (by decide)]
    rfl

/-- Behind the line that opens it, no line of a block has a first word. -/
theorem inner_wordless (entity : Entity) :
    ∀ line ∈ stereotypeLines entity ++ memberLines entity ++ [[indent, "\x7d\n"]],
      leadingWord? (lineBody line) = none := by
  simp only [List.forall_mem_append, List.forall_mem_singleton]
  refine ⟨⟨?stereotypes, ?members⟩, by decide⟩
  case stereotypes =>
    intro line member
    obtain ⟨stereotype, shown, same⟩ := List.mem_map.mp member
    subst same
    rw [reads_body _ _ (stereotype_reads stereotype entity (Option.mem_toList.mp shown))]
    exact leading_word_none ' ' _ (by decide)
  case members =>
    intro line member
    obtain ⟨text, written, same⟩ := List.mem_map.mp member
    subst same
    rw [reads_body _ _ (member_reads text (members_inline entity text written))]
    exact leading_word_none ' ' _ (by decide)

/-- Only the line that opens a block is taken for a block, and none of its lines for an edge. -/
theorem inner_plain (entity : Entity) :
    ∀ line ∈ stereotypeLines entity ++ memberLines entity ++ [[indent, "\x7d\n"]],
      isBlockLine (lineBody line) = false ∧ isEdgeLine edgeToken (lineBody line) = false := by
  intro line member
  exact wordless_plain _ (inner_wordless entity line member)

theorem block_split (entity : Entity) :
    blockLines entity = [indent, "class ", identifier entity.name, " \x7b\n"] ::
      (stereotypeLines entity ++ memberLines entity ++ [[indent, "\x7d\n"]]) := by
  simp [blockLines]

theorem block_count (entity : Entity) :
    (blockLines entity).countP (fun line => isBlockLine (lineBody line)) = 1 := by
  have inner := plain_not_counted isBlockLine _
    fun line member => (inner_plain entity line member).1
  rw [block_split, List.countP_cons, inner, opening_is_block entity.name]
  rfl

theorem block_not_edge (entity : Entity) :
    ∀ line ∈ blockLines entity, isEdgeLine edgeToken (lineBody line) = false := by
  intro line member
  rw [block_split] at member
  rcases List.mem_cons.mp member with opening | inner
  · rw [opening]
    exact opening_not_edge entity.name
  · exact (inner_plain entity line inner).2

/-- The blocks of a drawing are as many as its classes and interfaces. -/
theorem draw_blocks (analysis : Analysis) (options : EncodeOptions) :
    (draw analysis options).nodeCount =
      (draw analysis options).lines.countP (fun line => isBlockLine (lineBody line)) := by
  have heading := plain_not_counted isBlockLine _
    fun line member => (heading_plain options line member).1
  have edges : (analysis.relationships.map edgeLine).countP
      (fun line => isBlockLine (lineBody line)) = 0 := by
    simp [List.countP_map, Function.comp_def, edge_not_block]
  have blocks : ((classifiers analysis).flatMap blockLines).countP
      (fun line => isBlockLine (lineBody line)) = (classifiers analysis).length := by
    simp [List.countP_flatMap, Function.comp_def, block_count]
  simp only [draw]
  rw [List.countP_append, List.countP_append, heading, blocks, edges, Nat.zero_add, Nat.add_zero]

theorem front_not_edge (analysis : Analysis) (options : EncodeOptions) :
    ∀ line ∈ [[DiagramType.classes.keyword, "\n"]] ++ directionLines options ++
        titleLines options ++ (classifiers analysis).flatMap blockLines,
      isEdgeLine edgeToken (lineBody line) = false := by
  rw [List.forall_mem_append]
  constructor
  · intro line member
    exact (heading_plain options line member).2
  · intro line member
    obtain ⟨entity, _, inBlock⟩ := List.mem_flatMap.mp member
    exact block_not_edge entity line inBlock

/-- How many lines a block takes. -/
def blockLength (entity : Entity) : Nat :=
  2 + (if entity.kind = .interface ∨ entity.isAbstract = true then 1 else 0) +
    entity.properties.length + entity.methods.length

theorem block_length (entity : Entity) : (blockLines entity).length = blockLength entity := by
  have stereotype : (stereotypeLines entity).length =
      if entity.kind = .interface ∨ entity.isAbstract = true then 1 else 0 := by
    by_cases drawn : entity.kind = .interface
    · simp [stereotypeLines, stereotype?, drawn]
    · by_cases abstract : entity.isAbstract = true
      · simp [stereotypeLines, stereotype?, drawn, abstract]
      · simp [stereotypeLines, stereotype?, drawn, abstract]
  simp only [blockLines, memberLines, blockLength, List.length_append, stereotype, List.length_map,
    List.length_cons, List.length_nil]
  omega

/-- How many lines a class diagram takes. -/
def diagramLength (analysis : Analysis) (options : EncodeOptions) : Nat :=
  1 + (if options.direction.isSome then 1 else 0) +
    (if options.effectiveTitle.isSome then 1 else 0) +
    ((analysis.entities.filter fun entity => entity.kind = .objectClass ∨
      entity.kind = .interface).map blockLength).sum + analysis.relationships.length

theorem draw_length (analysis : Analysis) (options : EncodeOptions) :
    (draw analysis options).lines.length = diagramLength analysis options := by
  have selected : classifiers analysis = analysis.entities.filter fun entity =>
      entity.kind = .objectClass ∨ entity.kind = .interface := by
    apply List.filter_congr
    intro entity _
    cases entity.kind <;> decide
  have direction : (directionLines options).length =
      if options.direction.isSome then 1 else 0 := by
    cases given : options.direction <;> simp [directionLines, given]
  have blocks : ((classifiers analysis).flatMap blockLines).length =
      ((classifiers analysis).map blockLength).sum := by
    simp [List.length_flatMap, block_length]
  rw [diagramLength, ← selected]
  simp only [draw, List.length_append, List.length_singleton, List.length_map, direction,
    titles_length, blocks]

theorem draw_itemized (analysis : Analysis) (options : EncodeOptions) :
    Itemized { text := (draw analysis options).text
               metadata := Encoder.classes.metadataOf (draw analysis options) }
      (diagramLength analysis options) isBlockLine (isEdgeLine edgeToken)
      (analysis.relationships.map fun relationship => lineBody (edgeLine relationship)) := by
  have after : ∀ line ∈ analysis.relationships.map edgeLine,
      isEdgeLine edgeToken (lineBody line) = true := by
    simpa using fun relationship _ => edge_is_edge relationship
  have itemized := drawing_itemized .classes (draw analysis options) (draw_lined analysis options)
    isBlockLine (isEdgeLine edgeToken) _ (analysis.relationships.map edgeLine) rfl (by simp)
    (draw_blocks analysis options) (by simp [draw]) (front_not_edge analysis options) after
  rw [draw_length, List.map_map] at itemized
  exact itemized

end SourceAtlas.ClassDiagram
