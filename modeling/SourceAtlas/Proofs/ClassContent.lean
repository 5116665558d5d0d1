import Mathlib.Data.List.Basic
import SourceAtlas.Proofs.ClassLines
import SourceAtlas.Proofs.NormalForms
import SourceAtlas.Proofs.UniqueReading

/-!
What a class diagram says. Its content is the part of an analysis and of the options that is drawn,
in the form in which it is drawn, and it is spelled out here without the functions that draw. The
text is made from the content alone, and the content can be read off the text, although entities may
be named after the words of the diagram language and labels may hold the marks that set its parts
apart.
-/

open SourceAtlas.Text

namespace SourceAtlas.ClassDiagram

structure Block where
  name : String
  stereotype : Option String
  /-- The lines of the properties, and behind them those of the methods. -/
  members : List String
  deriving DecidableEq, Repr

structure Edge where
  source : String
  kind : RelationshipKind
  multiplicity : Option String
  target : String
  label : Option String
  deriving DecidableEq, Repr

structure Content where
  direction : Option Direction
  title : Option String
  blocks : List Block
  edges : List Edge
  deriving DecidableEq, Repr

def visibilityMark : Visibility → String
  | .pub => "+"
  | .priv => "-"
  | .prot => "#"

def markWhen (holds : Bool) (mark : String) : String :=
  if holds then mark else ""

/-- A property as it stands in a block: `-readonly name: type$`. -/
def drawnProperty (property : Property) : String :=
  String.join
    [visibilityMark property.visibility, markWhen property.isReadonly "readonly ",
      memberText property.name, ": ", memberText property.type, markWhen property.isStatic "$"]

def drawnParameter (parameter : Parameter) : String :=
  String.join
    [memberText parameter.name, markWhen parameter.optional "?", ": ", memberText parameter.type]

/-- A method as it stands in a block: `#name(first: type, second?: type): type$*`. -/
def drawnMethod (method : Method) : String :=
  String.join
    [visibilityMark method.visibility, memberText method.name, "(",
      ", ".intercalate (method.parameters.map drawnParameter), "): ", memberText method.returnType,
      markWhen method.isStatic "$", markWhen method.isAbstract "*"]

-- An interface is called one even where it is also marked as abstract.
def drawnStereotype? (entity : Entity) : Option String :=
  match entity.kind, entity.modifiers.contains .abstract with
  | .interface, _ => some "interface"
  | _, true => some "abstract"
  | _, false => none

def withoutQuote : Char → Char
  | '"' => '\''
  | c => c

def drawnMultiplicity (text : String) : String :=
  String.ofList ((singleLine text).toList.map withoutQuote)

def blockOf (entity : Entity) : Block :=
  { name := identifier entity.name
    stereotype := drawnStereotype? entity
    members := entity.properties.map drawnProperty ++ entity.methods.map drawnMethod }

def edgeOf (relationship : Relationship) : Edge :=
  { source := identifier relationship.source
    kind := relationship.kind
    multiplicity := relationship.multiplicity.map drawnMultiplicity
    target := identifier relationship.target
    label := relationship.label.bind (shown? singleLine) }

/-- Classes and interfaces, and nothing else. -/
def drawnClassifiers (analysis : Analysis) : List Entity :=
  analysis.entities.filter fun entity => entity.kind == .objectClass || entity.kind == .interface

def contentOf (analysis : Analysis) (options : EncodeOptions) : Content :=
  { direction := options.direction
    title := drawnTitle? options
    blocks := (drawnClassifiers analysis).map blockOf
    edges := analysis.relationships.map edgeOf }

/-! The functions that draw spell the same. -/

theorem visibility_sign (visibility : Visibility) :
    String.singleton visibility.sign = visibilityMark visibility := by
  cases visibility <;> rfl

theorem property_line_spelled : propertyLine = drawnProperty := by
  funext property
  simp [propertyLine, drawnProperty, visibility_sign, markWhen, String.join, String.append_assoc]

theorem parameter_text_spelled : parameterText = drawnParameter := by
  funext parameter
  simp [parameterText, drawnParameter, markWhen, String.join, String.append_assoc]

theorem method_line_spelled : methodLine = drawnMethod := by
  funext method
  simp [methodLine, drawnMethod, visibility_sign, parameter_text_spelled, markWhen, String.join,
    String.append_assoc]

theorem stereotype_spelled (entity : Entity) : stereotype? entity = drawnStereotype? entity := by
  unfold stereotype? drawnStereotype? Entity.isAbstract
  cases entity.kind <;> cases entity.modifiers.contains .abstract <;> rfl

theorem multiplicity_text_spelled : multiplicityText = drawnMultiplicity := by
  funext text
  rw [multiplicityText, drawnMultiplicity]
  congr 2
  funext c
  unfold withoutQuote
  split <;> simp_all

theorem label_text_spelled (label : Option String) :
    labelText? label = label.bind (shown? singleLine) :=
  shown_filter singleLine single_line_empty label

theorem classifiers_spelled (analysis : Analysis) :
    classifiers analysis = drawnClassifiers analysis := by
  refine List.filter_congr ?_
  intro entity _
  cases entity.kind <;> rfl

theorem block_spelled (entity : Entity) :
    blockOf entity =
      { name := identifier entity.name
        stereotype := stereotype? entity
        members := entity.properties.map propertyLine ++ entity.methods.map methodLine } := by
  rw [blockOf, stereotype_spelled, property_line_spelled, method_line_spelled]

theorem edge_spelled (relationship : Relationship) :
    edgeOf relationship =
      { source := identifier relationship.source
        kind := relationship.kind
        multiplicity := relationship.multiplicity.map multiplicityText
        target := identifier relationship.target
        label := labelText? relationship.label } := by
  rw [edgeOf, multiplicity_text_spelled, label_text_spelled]

/-! The text is made from the content alone. -/

def Block.lines (block : Block) : List Line :=
  [[indent, "class ", block.name, " \x7b\n"]] ++
    block.stereotype.toList.map (fun stereotype =>
      [indent, indent, "<<" ++ stereotype ++ ">>\n"]) ++
    block.members.map (fun member => [indent, indent, member, "\n"]) ++ [[indent, "\x7d\n"]]

def Edge.line (edge : Edge) : Line :=
  [indent, edge.source, " ", edgeToken edge.kind] ++
    (edge.multiplicity.map fun text => [" \"", text, "\""]).getD [] ++ [" ", edge.target] ++
    (edge.label.map fun text => [" : ", text]).getD [] ++ ["\n"]

def Content.lines (content : Content) : List Line :=
  [[DiagramType.classes.keyword, "\n"]] ++
    content.direction.toList.map (fun direction => [indent, "direction ", direction.name, "\n"]) ++
    content.title.toList.map (fun title => [indent, "accTitle: ", title, "\n"]) ++
    content.blocks.flatMap Block.lines ++ content.edges.map Edge.line

theorem edge_line_content (relationship : Relationship) :
    edgeLine relationship = (edgeOf relationship).line := by
  cases given : relationship.multiplicity <;> simp [edgeLine, Edge.line, edge_spelled, given]

theorem block_lines_content (entity : Entity) : blockLines entity = (blockOf entity).lines := by
  rw [block_spelled]
  rfl

theorem draw_content (analysis : Analysis) (options : EncodeOptions) :
    (draw analysis options).lines = (contentOf analysis options).lines := by
  have blocks : (contentOf analysis options).blocks.flatMap Block.lines =
      (classifiers analysis).flatMap blockLines := by
    rw [contentOf, ← classifiers_spelled, List.flatMap_map]
    exact List.flatMap_congr fun entity _ => (block_lines_content entity).symm
  have edges : (contentOf analysis options).edges.map Edge.line =
      analysis.relationships.map edgeLine := by
    rw [contentOf, List.map_map]
    exact List.map_congr_left fun relationship _ => (edge_line_content relationship).symm
  rw [Content.lines, blocks, edges, draw, titles_drawn]
  rfl

/-! The sections of a diagram follow each other in a fixed order, and no line of one of them can be
taken for a line of an earlier one. -/

def isDirectionLine (line : List Char) : Bool :=
  Direction.all.any fun direction =>
    line == indent.toList ++ ("direction".toList ++ ' ' :: direction.name.toList)

theorem directions_are_directions (options : EncodeOptions) :
    ∀ line ∈ (directionLines options).map lineBody, isDirectionLine line = true := by
  rw [directionLines, List.map_map, List.forall_mem_map]
  intro direction _
  rw [Function.comp_apply, reads_body _ _ (direction_reads direction)]
  cases direction <;> decide

theorem direction_line_plain (line : List Char) (found : isDirectionLine line = true) :
    isTitleLine line = false ∧ isBlockLine line = false ∧ isEdgeLine edgeToken line = false ∧
      leadingWord? line ≠ none := by
  obtain ⟨direction, _, same⟩ := List.any_eq_true.mp found
  rw [beq_iff_eq] at same
  subst same
  cases direction <;> exact ⟨by decide, by decide, by decide, by decide⟩

theorem block_line_cases (entity : Entity) :
    ∀ line ∈ (blockLines entity).map lineBody,
      isBlockLine line = true ∨ leadingWord? line = none := by
  rw [block_split, List.forall_mem_map, List.forall_mem_cons]
  constructor
  · exact Or.inl (opening_is_block entity.name)
  · intro line member
    exact Or.inr (inner_wordless entity line member)

theorem block_line_not_title (line : List Char) (opening : isBlockLine line = true) :
    isTitleLine line = false := by
  obtain ⟨id, isWord, split⟩ := (block_line_iff line).mp opening
  rw [split, opening_shape]
  exact title_line_follower _ _ ' ' (by decide) (by decide)

/-- The lines of all blocks, and then those of all edges. -/
def itemBodies (analysis : Analysis) : List (List Char) :=
  (classifiers analysis).flatMap (fun entity => (blockLines entity).map lineBody) ++
    analysis.relationships.map fun relationship => lineBody (edgeLine relationship)

theorem item_body_cases (analysis : Analysis) :
    ∀ line ∈ itemBodies analysis,
      isBlockLine line = true ∨ leadingWord? line = none ∨
        ∃ relationship, line = lineBody (edgeLine relationship) := by
  rw [itemBodies, List.forall_mem_append, List.forall_mem_map]
  constructor
  · intro line member
    obtain ⟨entity, _, inBlock⟩ := List.mem_flatMap.mp member
    rcases block_line_cases entity line inBlock with opening | wordless
    · exact Or.inl opening
    · exact Or.inr (Or.inl wordless)
  · intro relationship _
    exact Or.inr (Or.inr ⟨relationship, rfl⟩)

theorem items_not_title (analysis : Analysis) :
    ∀ line ∈ itemBodies analysis, isTitleLine line = false := by
  intro line member
  rcases item_body_cases analysis line member with opening | wordless | ⟨relationship, edge⟩
  · exact block_line_not_title line opening
  · simp [isTitleLine, wordless]
  · rw [edge, reads_body _ _ (edge_reads relationship), edgeBody]
    exact title_line_follower _ _ ' ' (identifier_word relationship.source) (by decide)

-- An edge may start at an entity named `direction`. No direction is named like a token.
theorem later_not_direction (analysis : Analysis) (options : EncodeOptions) :
    ∀ line ∈ (titleLines options).map lineBody ++ itemBodies analysis,
      isDirectionLine line = false := by
  intro line member
  rw [Bool.eq_false_iff]
  intro found
  obtain ⟨notTitle, notBlock, notEdge, worded⟩ := direction_line_plain line found
  rcases List.mem_append.mp member with title | item
  · simp [titles_are_titles options line title] at notTitle
  · rcases item_body_cases analysis line item with opening | wordless | ⟨relationship, edge⟩
    · simp [opening] at notBlock
    · exact worded wordless
    · simp [edge, edge_is_edge relationship] at notEdge

theorem draw_bodies (analysis : Analysis) (options : EncodeOptions) :
    (draw analysis options).lines.map lineBody =
      "classDiagram".toList :: ((directionLines options).map lineBody ++
        ((titleLines options).map lineBody ++ itemBodies analysis)) := by
  have keyword : lineBody [DiagramType.classes.keyword, "\n"] = "classDiagram".toList := by decide
  simp only [draw, itemBodies, List.map_append, List.map_cons, List.map_flatMap, List.map_map,
    Function.comp_def, keyword, List.append_assoc, List.cons_append, List.nil_append]

/-! Reading the lines of each section. -/

theorem directions_unique (options others : EncodeOptions)
    (same : (directionLines options).map lineBody = (directionLines others).map lineBody) :
    options.direction = others.direction := by
  rw [directionLines, directionLines, List.map_map, List.map_map] at same
  apply optional_injective _ _ _ _ same
  intro direction other
  cases direction <;> cases other <;> decide

def memberTexts (entity : Entity) : List String :=
  entity.properties.map propertyLine ++ entity.methods.map methodLine

/-- What stands inside a block, without the indent. -/
def innerTexts (entity : Entity) : List String :=
  (stereotype? entity).toList.map (fun stereotype => "<<" ++ stereotype ++ ">>") ++
    memberTexts entity

def innerBody (text : String) : List Char :=
  (indent ++ indent).toList ++ text.toList

theorem inner_body_injective : Function.Injective innerBody := by
  intro text other same
  exact String.toList_injective (List.append_cancel_left same)

theorem inner_bodies (entity : Entity) :
    (stereotypeLines entity ++ memberLines entity).map lineBody =
      (innerTexts entity).map innerBody := by
  have stereotypes : (stereotypeLines entity).map lineBody =
      ((stereotype? entity).toList.map fun stereotype => "<<" ++ stereotype ++ ">>").map
        innerBody := by
    rw [stereotypeLines, List.map_map, List.map_map]
    apply List.map_congr_left
    intro stereotype shown
    rw [Function.comp_apply, Function.comp_apply, innerBody,
      reads_body _ _ (stereotype_reads stereotype entity (Option.mem_toList.mp shown))]
    simp only [String.toList_append]
    rfl
  have members : (memberLines entity).map lineBody = (memberTexts entity).map innerBody := by
    rw [memberLines, List.map_map]
    apply List.map_congr_left
    intro member written
    rw [Function.comp_apply,
      reads_body _ _ (member_reads member (members_inline entity member written))]
    rfl
  rw [List.map_append, stereotypes, members, innerTexts, ← List.map_append]

theorem inner_texts_unique (entity other : Entity) (same : innerTexts entity = innerTexts other) :
    stereotype? entity = stereotype? other ∧ memberTexts entity = memberTexts other := by
  have stereotypes : ∀ entity, ∀ text ∈ (stereotype? entity).toList.map
      (fun stereotype => "<<" ++ stereotype ++ ">>"), (text.toList.head? == some '<') = true := by
    intro entity
    rw [List.forall_mem_map]
    intro stereotype _
    simp
  have members : ∀ entity, ∀ text ∈ memberTexts entity,
      (text.toList.head? == some '<') = false := by
    intro entity
    simp only [memberTexts, List.forall_mem_append, List.forall_mem_map, property_line_sign,
      method_line_sign]
    constructor
    · intro property _
      cases property.visibility <;> decide
    · intro method _
      cases method.visibility <;> decide
  obtain ⟨shown, listed⟩ := section_unique (fun text : String => text.toList.head? == some '<')
    _ _ _ _ (stereotypes entity) (stereotypes other) (members entity) (members other) same
  refine ⟨optional_injective _ ?_ _ _ shown, listed⟩
  intro stereotype next equal
  have chars := congrArg String.toList equal
  simp only [String.toList_append, List.append_cancel_left_eq, List.append_cancel_right_eq]
    at chars
  exact String.toList_injective chars

theorem block_bodies (entity : Entity) :
    (blockLines entity).map lineBody =
      (indent.toList ++ ("class".toList ++ ' ' :: ((identifier entity.name).toList ++
        " \x7b".toList))) :: ((innerTexts entity).map innerBody ++ ["    \x7d".toList]) := by
  have closing : lineBody [indent, "\x7d\n"] = "    \x7d".toList := by decide
  rw [block_split, List.map_cons, reads_body _ _ (opening_reads entity.name), List.map_append,
    inner_bodies, List.map_singleton, closing]

theorem block_cut (entity other : Entity) (rest behind : List (List Char))
    (same : (blockLines entity).map lineBody ++ rest = (blockLines other).map lineBody ++ behind) :
    blockOf entity = blockOf other ∧ rest = behind := by
  rw [block_bodies, block_bodies, List.cons_append, List.cons_append, List.cons.injEq,
    List.append_assoc, List.append_assoc] at same
  obtain ⟨openings, blocks⟩ := same
  have names : identifier entity.name = identifier other.name := by
    have words := List.append_cancel_left (List.append_cancel_left openings)
    rw [List.cons.injEq] at words
    exact String.toList_injective (List.append_cancel_right words.2)
  -- The brace that closes a block is indented once, and all that stands before it twice.
  have indented : ∀ entity, ∀ line ∈ (innerTexts entity).map innerBody,
      (indent ++ indent).toList.isPrefixOf line = true := by
    intro entity
    rw [List.forall_mem_map]
    intro text _
    exact List.isPrefixOf_iff_prefix.mpr (List.prefix_append _ _)
  obtain ⟨inner, closed⟩ := run_unique _ _ _ _ _ (indented entity) (indented other)
    rfl rfl blocks
  have texts := List.map_injective_iff.mpr inner_body_injective inner
  obtain ⟨stereotypes, members⟩ := inner_texts_unique entity other texts
  rw [List.singleton_append, List.singleton_append, List.cons.injEq] at closed
  refine ⟨?_, closed.2⟩
  rw [block_spelled, block_spelled, Block.mk.injEq]
  exact ⟨names, stereotypes, members⟩

theorem multiplicity_unquoted (multiplicity : String) :
    ∀ c ∈ (multiplicityText multiplicity).toList, (c != '"') = true := by
  rw [multiplicityText, String.toList_ofList, List.forall_mem_map]
  intro c _
  split
  · decide
  · rename_i other
    simpa using other

/-- The end of an edge: what it leads to, and its label. -/
def targetChars (relationship : Relationship) : List Char :=
  (identifier relationship.target).toList ++
    ((labelText? relationship.label).map fun text => " : ".toList ++ text.toList).getD []

theorem target_unique (relationship other : Relationship)
    (same : targetChars relationship = targetChars other) :
    identifier relationship.target = identifier other.target ∧
      labelText? relationship.label = labelText? other.label := by
  have stops : ∀ label : Option String,
      (((label.map fun text => " : ".toList ++ text.toList).getD []).head?.all
        fun c => !isIdentifierChar c) = true := by
    intro label
    cases label with
    | none => rfl
    | some text => rfl
  obtain ⟨names, labels⟩ := run_unique isIdentifierChar _ _ _ _
    (identifier_word relationship.target).2 (identifier_word other.target).2 (stops _) (stops _) same
  refine ⟨String.toList_injective names, ?_⟩
  cases left : labelText? relationship.label with
  | none =>
      cases right : labelText? other.label with
      | none => rfl
      | some text => simp [left, right] at labels
  | some text =>
      cases right : labelText? other.label with
      | none => simp [left, right] at labels
      | some next =>
          simp only [left, right, Option.map_some, Option.getD_some] at labels
          rw [String.toList_injective (List.append_cancel_left labels)]

theorem edge_tail_chars (relationship : Relationship) :
    (edgeTail relationship).flatMap String.toList =
      ((relationship.multiplicity.map multiplicityText).map fun text =>
        ' ' :: '"' :: (text.toList ++ ['"'])).getD [] ++ ' ' :: targetChars relationship := by
  cases given : relationship.multiplicity <;> cases shown : labelText? relationship.label <;>
    simp [edgeTail, targetChars, given, shown]

theorem target_not_quote (relationship : Relationship) (rest : List Char) :
    targetChars relationship ≠ '"' :: rest := by
  intro same
  have isWord := identifier_word relationship.target
  cases chars : (identifier relationship.target).toList with
  | nil => exact isWord.1 chars
  | cons first others =>
      rw [targetChars, chars, List.cons_append, List.cons.injEq] at same
      have allowed := isWord.2 first (by rw [chars]; exact List.mem_cons_self)
      rw [same.1] at allowed
      exact absurd allowed (by decide)

theorem edge_tail_unique (relationship other : Relationship)
    (same : (edgeTail relationship).flatMap String.toList =
      (edgeTail other).flatMap String.toList) :
    relationship.multiplicity.map multiplicityText = other.multiplicity.map multiplicityText ∧
      targetChars relationship = targetChars other := by
  rw [edge_tail_chars, edge_tail_chars] at same
  cases left : relationship.multiplicity with
  | none =>
      cases right : other.multiplicity with
      | none => simpa [left, right] using same
      | some text =>
          simp only [left, right, Option.map_none, Option.map_some, Option.getD_none,
            Option.getD_some, List.nil_append, List.cons_append, List.cons.injEq] at same
          exact absurd same.2 (target_not_quote relationship _)
  | some text =>
      cases right : other.multiplicity with
      | none =>
          simp only [left, right, Option.map_none, Option.map_some, Option.getD_none,
            Option.getD_some, List.nil_append, List.cons_append, List.cons.injEq] at same
          exact absurd same.2.symm (target_not_quote other _)
      | some next =>
          simp only [left, right, Option.map_some, Option.getD_some, List.cons_append,
            List.cons.injEq, true_and, List.append_assoc, List.nil_append] at same
          obtain ⟨texts, targets⟩ := run_unique (· != '"') _ _ _ _ (multiplicity_unquoted text)
            (multiplicity_unquoted next) rfl rfl same
          rw [List.cons.injEq, List.cons.injEq] at targets
          exact ⟨by simp [String.toList_injective texts], targets.2.2⟩

theorem tokens_apart (kind other : RelationshipKind)
    (begins : (edgeToken kind).toList <+: (edgeToken other).toList) : kind = other := by
  revert begins
  cases kind <;> cases other <;> decide

theorem edge_unique (relationship other : Relationship)
    (same : lineBody (edgeLine relationship) = lineBody (edgeLine other)) :
    edgeOf relationship = edgeOf other := by
  rw [reads_body _ _ (edge_reads relationship), reads_body _ _ (edge_reads other)] at same
  obtain ⟨sources, kinds, tails⟩ := edge_body_unique edgeToken tokens_apart _ _ _ _ _ _
    (identifier_word relationship.source) (identifier_word other.source) same
  obtain ⟨multiplicities, ends⟩ := edge_tail_unique relationship other tails
  obtain ⟨targets, labels⟩ := target_unique relationship other ends
  rw [edge_spelled, edge_spelled, Edge.mk.injEq]
  exact ⟨sources, kinds, multiplicities, targets, labels⟩

theorem items_unique (analysis other : Analysis) (same : itemBodies analysis = itemBodies other) :
    (classifiers analysis).map blockOf = (classifiers other).map blockOf ∧
      analysis.relationships.map edgeOf = other.relationships.map edgeOf := by
  have blocks : ∀ analysis, ∀ line ∈ (classifiers analysis).flatMap
      (fun entity => (blockLines entity).map lineBody), isEdgeLine edgeToken line = false := by
    intro analysis line member
    obtain ⟨entity, _, inBlock⟩ := List.mem_flatMap.mp member
    obtain ⟨drawn, inLines, body⟩ := List.mem_map.mp inBlock
    rw [← body]
    exact block_not_edge entity drawn inLines
  have edges : ∀ analysis : Analysis, ∀ line ∈ analysis.relationships.map
      (fun relationship => lineBody (edgeLine relationship)),
      isEdgeLine edgeToken line = true := by
    intro analysis
    rw [List.forall_mem_map]
    exact fun relationship _ => edge_is_edge relationship
  obtain ⟨front, back⟩ := last_section_unique (isEdgeLine edgeToken) _ _ _ _
    (blocks analysis) (blocks other) (edges analysis) (edges other) same
  constructor
  · exact parts_unique _ blockOf (by simp [block_bodies]) block_cut _ _ front
  · exact lines_unique _ edgeOf edge_unique _ _ back

theorem content_unique (analysis other : Analysis) (options others : EncodeOptions)
    (same : (draw analysis options).lines.map lineBody = (draw other others).lines.map lineBody) :
    contentOf analysis options = contentOf other others := by
  rw [draw_bodies, draw_bodies, List.cons.injEq] at same
  obtain ⟨directions, later⟩ := section_unique isDirectionLine _ _ _ _
    (directions_are_directions options) (directions_are_directions others)
    (later_not_direction analysis options) (later_not_direction other others) same.2
  obtain ⟨titles, items⟩ := section_unique isTitleLine _ _ _ _ (titles_are_titles options)
    (titles_are_titles others) (items_not_title analysis) (items_not_title other) later
  obtain ⟨blocks, edges⟩ := items_unique analysis other items
  rw [contentOf, contentOf, ← classifiers_spelled, ← classifiers_spelled, Content.mk.injEq]
  exact ⟨directions_unique options others directions, titles_unique options others titles, blocks,
    edges⟩

theorem class_text_determines_content (analysis other : Analysis)
    (options others : EncodeOptions) (own : options.diagramType = .classes)
    (otherOwn : others.diagramType = .classes) :
    ∃ diagram next, Encoder.classes.encode analysis options = .ok diagram ∧
      Encoder.classes.encode other others = .ok next ∧
      (diagram.text = next.text ↔ contentOf analysis options = contentOf other others) := by
  refine ⟨_, _, Encoder.encode_whole .classes analysis options own,
    Encoder.encode_whole .classes other others otherOwn, ?_⟩
  constructor
  · intro same
    exact content_unique analysis other options others
      (Drawing.bodies_unique _ _ (draw_lined analysis options) (draw_lined other others) same)
  · intro same
    simp only [Encoder.classes, Drawing.text, Drawing.pieces, draw_content, same]

/-- One class, and an edge from it to an entity that is named like a word of the language. -/
def linkedAnalysis (name : String) (multiplicity : Option String) (label : String) : Analysis :=
  .ofParts [.named .objectClass name]
    [{ kind := .association, source := name, target := "class", label := some label, multiplicity }]

theorem class_text_determines_content_linked :
    (∃ diagram next,
      Encoder.classes.encode (linkedAnalysis "a.b" (some "\"") "x\n: y") {} = .ok diagram ∧
      Encoder.classes.encode (linkedAnalysis "a-b" (some " ' ") " x  : y ") {} = .ok next ∧
      diagram.text = next.text) ∧
    (∃ diagram next,
      Encoder.classes.encode (linkedAnalysis "a.b" (some "") "x") {} = .ok diagram ∧
      Encoder.classes.encode (linkedAnalysis "a.b" none "x") {} = .ok next ∧
      diagram.text ≠ next.text) ∧
    ∃ diagram next,
      Encoder.classes.encode (linkedAnalysis "a.b" none "x") {} = .ok diagram ∧
      Encoder.classes.encode (linkedAnalysis "a.b" none "y") {} = .ok next ∧
      diagram.text ≠ next.text := by
  refine ⟨?_, ?_, ?_⟩
  · obtain ⟨diagram, next, drawn, drawnNext, same⟩ := class_text_determines_content
      (linkedAnalysis "a.b" (some "\"") "x\n: y") (linkedAnalysis "a-b" (some " ' ") " x  : y ")
      {} {} rfl rfl
    exact ⟨diagram, next, drawn, drawnNext, same.mpr (by decide)⟩
  · obtain ⟨diagram, next, drawn, drawnNext, same⟩ := class_text_determines_content
      (linkedAnalysis "a.b" (some "") "x") (linkedAnalysis "a.b" none "x") {} {} rfl rfl
    exact ⟨diagram, next, drawn, drawnNext, fun equal => absurd (same.mp equal) (by decide)⟩
  · obtain ⟨diagram, next, drawn, drawnNext, same⟩ := class_text_determines_content
      (linkedAnalysis "a.b" none "x") (linkedAnalysis "a.b" none "y") {} {} rfl rfl
    exact ⟨diagram, next, drawn, drawnNext, fun equal => absurd (same.mp equal) (by decide)⟩

end SourceAtlas.ClassDiagram
