import Mathlib.Data.List.Basic
import SourceAtlas.Proofs.ClassContent
import SourceAtlas.Proofs.PrivateMembers

/-!
Diagrams without private members. In a class diagram every private member has a line of its own,
which starts with a minus sign behind two indents, and no other line starts so, whatever the names
and labels are. A flowchart shows no members.
-/

open SourceAtlas.Text

namespace SourceAtlas

namespace ClassDiagram

def isPrivateLine (line : List Char) : Bool :=
  (indent ++ indent ++ "-").toList.isPrefixOf line

/-- A line that has a first word is indented once. -/
theorem worded_not_private (line : List Char) (worded : leadingWord? line ≠ none) :
    isPrivateLine line = false := by
  rw [Bool.eq_false_iff]
  intro found
  obtain ⟨rest, split⟩ := List.isPrefixOf_iff_prefix.mp found
  have shape : (indent ++ indent ++ "-").toList ++ rest =
      indent.toList ++ ' ' :: ("   -".toList ++ rest) := rfl
  rw [shape] at split
  exact worded (split ▸ leading_word_none ' ' _ (by decide))

theorem titled_worded (line : List Char) (title : isTitleLine line = true) :
    leadingWord? line ≠ none := by
  intro wordless
  simp [isTitleLine, wordless] at title

theorem heading_not_private (options : EncodeOptions) :
    ∀ line ∈ "classDiagram".toList :: ((directionLines options).map lineBody ++
      (titleLines options).map lineBody), isPrivateLine line = false := by
  rw [List.forall_mem_cons, List.forall_mem_append]
  refine ⟨by decide, ?directions, ?titles⟩
  case directions =>
    intro line member
    have found := directions_are_directions options line member
    exact worded_not_private line (direction_line_plain line found).2.2.2
  case titles =>
    intro line member
    exact worded_not_private line (titled_worded line (titles_are_titles options line member))

theorem edge_not_private (relationship : Relationship) :
    isPrivateLine (lineBody (edgeLine relationship)) = false := by
  apply worded_not_private
  rw [reads_body _ _ (edge_reads relationship), edgeBody,
    leading_word_cons _ _ ' ' (identifier_word relationship.source) (by decide)]
  exact Option.some_ne_none _

theorem opening_not_private (name : String) :
    isPrivateLine (indent.toList ++ ("class".toList ++ ' ' :: ((identifier name).toList ++
      " \x7b".toList))) = false := by
  apply worded_not_private
  rw [leading_word_cons _ _ ' ' (by decide) (by decide)]
  exact Option.some_ne_none _

theorem inner_private (text : String) :
    isPrivateLine (innerBody text) = (text.toList.head? == some '-') := by
  have shape : (indent ++ indent ++ "-").toList = (indent ++ indent).toList ++ ['-'] := rfl
  rw [isPrivateLine, innerBody, shape]
  cases text.toList with
  | nil => rfl
  | cons c rest => simp [List.isPrefixOf, indent, eq_comm]

theorem sign_private (visibility : Visibility) :
    (visibility.sign == '-') = decide (visibility = .priv) := by
  cases visibility <;> decide

/-- Members of either sort, each written on a line that starts with the sign of its visibility. -/
theorem signed_hiding {Member : Type} (write : Member → String) (visibility : Member → Visibility)
    (signed : ∀ member, (write member).toList.head? = some (visibility member).sign)
    (members : List Member) :
    (members.map write).filter (fun text => !(text.toList.head? == some '-')) =
      (members.filter fun member => visibility member ≠ .priv).map write := by
  simp [List.filter_map, Function.comp_def, signed, sign_private]

theorem inner_texts_hiding (entity : Entity) :
    (innerTexts entity).filter (fun text => !(text.toList.head? == some '-')) =
      innerTexts entity.withoutPrivate := by
  have stereotypes : ((stereotype? entity).toList.map fun stereotype =>
      "<<" ++ stereotype ++ ">>").filter (fun text => !(text.toList.head? == some '-')) =
      (stereotype? entity).toList.map fun stereotype => "<<" ++ stereotype ++ ">>" := by
    rw [List.filter_eq_self, List.forall_mem_map]
    intro stereotype _
    simp
  rw [innerTexts, memberTexts, List.filter_append, List.filter_append, stereotypes,
    signed_hiding propertyLine (·.visibility) property_line_sign,
    signed_hiding methodLine (·.visibility) method_line_sign]
  rfl

theorem block_hiding (entity : Entity) :
    ((blockLines entity).map lineBody).filter (fun line => !isPrivateLine line) =
      (blockLines entity.withoutPrivate).map lineBody := by
  have inner : ((innerTexts entity).map innerBody).filter (fun line => !isPrivateLine line) =
      (innerTexts entity.withoutPrivate).map innerBody := by
    simp only [← inner_texts_hiding, List.filter_map, Function.comp_def, inner_private]
  have closing : ["    \x7d".toList].filter (fun line => !isPrivateLine line) =
      ["    \x7d".toList] := by decide
  rw [block_bodies, block_bodies, List.filter_cons, opening_not_private, List.filter_append, inner,
    closing]
  rfl

theorem classifiers_hiding (full kept : Analysis)
    (entities : kept.entities = full.entities.map Entity.withoutPrivate) :
    classifiers kept = (classifiers full).map Entity.withoutPrivate := by
  rw [classifiers, classifiers, entities, List.filter_map]
  rfl

theorem items_hiding (full kept : Analysis)
    (entities : kept.entities = full.entities.map Entity.withoutPrivate)
    (relationships : kept.relationships = full.relationships) :
    (itemBodies full).filter (fun line => !isPrivateLine line) = itemBodies kept := by
  have edges : (full.relationships.map fun relationship => lineBody (edgeLine relationship)).filter
      (fun line => !isPrivateLine line) =
      full.relationships.map fun relationship => lineBody (edgeLine relationship) := by
    rw [List.filter_eq_self, List.forall_mem_map]
    intro relationship _
    rw [edge_not_private relationship]
    rfl
  rw [itemBodies, itemBodies, List.filter_append, edges, List.filter_flatMap,
    classifiers_hiding full kept entities, List.flatMap_map, relationships]
  simp only [block_hiding]

theorem draw_hiding (full kept : Analysis) (options : EncodeOptions)
    (entities : kept.entities = full.entities.map Entity.withoutPrivate)
    (relationships : kept.relationships = full.relationships) :
    (draw kept options).lines.map lineBody =
      ((draw full options).lines.map lineBody).filter fun line => !isPrivateLine line := by
  have heading : ("classDiagram".toList :: ((directionLines options).map lineBody ++
      (titleLines options).map lineBody)).filter (fun line => !isPrivateLine line) =
      "classDiagram".toList :: ((directionLines options).map lineBody ++
        (titleLines options).map lineBody) := by
    rw [List.filter_eq_self]
    intro line member
    rw [heading_not_private options line member]
    rfl
  have grouped : ∀ items, "classDiagram".toList :: ((directionLines options).map lineBody ++
      ((titleLines options).map lineBody ++ items)) =
      "classDiagram".toList :: ((directionLines options).map lineBody ++
        (titleLines options).map lineBody) ++ items := by
    intro items
    rw [← List.append_assoc, List.cons_append]
  rw [draw_bodies, draw_bodies, grouped, grouped, List.filter_append, heading,
    items_hiding full kept entities relationships]

theorem lines_hiding (full kept : Analysis) (options : EncodeOptions)
    (entities : kept.entities = full.entities.map Entity.withoutPrivate)
    (relationships : kept.relationships = full.relationships) :
    lines (draw kept options).text.toList =
      (lines (draw full options).text.toList).filter fun line => !isPrivateLine line := by
  rw [Drawing.lines_of_text _ (draw_lined kept options),
    Drawing.lines_of_text _ (draw_lined full options),
    draw_hiding full kept options entities relationships]

theorem counts_hiding (full kept : Analysis) (options : EncodeOptions)
    (entities : kept.entities = full.entities.map Entity.withoutPrivate)
    (relationships : kept.relationships = full.relationships) :
    (draw kept options).nodeCount = (draw full options).nodeCount ∧
      (draw kept options).edgeCount = (draw full options).edgeCount := by
  simp only [draw, classifiers_hiding full kept entities, relationships, List.length_map, and_self]

end ClassDiagram

theorem Flowchart.draw_hiding (full kept : Analysis) (options : EncodeOptions)
    (entities : kept.entities = full.entities.map Entity.withoutPrivate)
    (relationships : kept.relationships = full.relationships) :
    draw kept options = draw full options := by
  have nodes : kept.entities.map nodeLine = full.entities.map nodeLine := by
    rw [entities, List.map_map]
    rfl
  have count : kept.entities.length = full.entities.length := by
    rw [entities, List.length_map]
  simp only [draw, nodes, count, relationships]

theorem diagrams_hide_private_lines (options : AnalysisOptions) (language source : String)
    (root : Tree.Node) (layout : EncodeOptions) :
    (layout.diagramType = .classes →
      ∃ whole shown,
        Encoder.classes.encode (analyzeTree options.showingPrivate language source root) layout =
          .ok whole ∧
        Encoder.classes.encode (analyzeTree options.hidingPrivate language source root) layout =
          .ok shown ∧
        lines shown.text.toList =
          (lines whole.text.toList).filter (fun line => !"        -".toList.isPrefixOf line) ∧
        shown.metadata.nodeCount = whole.metadata.nodeCount ∧
        shown.metadata.edgeCount = whole.metadata.edgeCount) ∧
    (layout.diagramType = .flowchart →
      ∃ whole shown,
        Encoder.flowchart.encode (analyzeTree options.showingPrivate language source root) layout =
          .ok whole ∧
        Encoder.flowchart.encode (analyzeTree options.hidingPrivate language source root) layout =
          .ok shown ∧
        shown.text = whole.text) := by
  have entities := Outline.entities_hiding options root
  have relationships := Relationship.derive_hiding (Outline.entities options.showingPrivate root)
  rw [← entities] at relationships
  constructor
  · intro own
    refine ⟨_, _, Encoder.encode_whole .classes _ layout own,
      Encoder.encode_whole .classes _ layout own, ?lines, ?counts⟩
    case lines => exact ClassDiagram.lines_hiding _ _ layout entities relationships
    case counts => exact ClassDiagram.counts_hiding _ _ layout entities relationships
  · intro own
    refine ⟨_, _, Encoder.encode_whole .flowchart _ layout own,
      Encoder.encode_whole .flowchart _ layout own, ?_⟩
    exact congrArg Drawing.text (Flowchart.draw_hiding _ _ layout entities relationships)

/-- A class with a private field and a protected method, whose own name and the method's start with
the sign of private members. -/
def signedTree : Tree.Node :=
  let node (kind : Tree.Kind) (text : String) (fields : List (Tree.Field × Tree.Node))
      (children : List Tree.Node) : Tree.Node :=
    { mark := 0, kind, text, position := .start, fields, children }
  let field := node .property "" [(.name, node .privateName "#x" [] [])] []
  let method := node .method "" [(.name, node .propertyName "-y" [] [])]
    [node (.modifier .prot) "protected" [] []]
  let body := node .other "" [] [field, method]
  node .classDecl "" [(.name, node .typeName "-" [] []), (.body, body)] [body]

theorem diagrams_hide_private_lines_signed :
    (∃ whole shown,
      Encoder.classes.encode
        (analyzeTree { includePrivate := true } "typescript" "" signedTree) {} = .ok whole ∧
      Encoder.classes.encode
        (analyzeTree { includePrivate := false } "typescript" "" signedTree) {} = .ok shown ∧
      lines shown.text.toList =
        (lines whole.text.toList).filter (fun line => !"        -".toList.isPrefixOf line) ∧
      shown.metadata.nodeCount = whole.metadata.nodeCount ∧
      shown.metadata.edgeCount = whole.metadata.edgeCount) ∧
    ∃ whole shown,
      Encoder.flowchart.encode (analyzeTree { includePrivate := true } "typescript" "" signedTree)
        { diagramType := .flowchart } = .ok whole ∧
      Encoder.flowchart.encode (analyzeTree { includePrivate := false } "typescript" "" signedTree)
        { diagramType := .flowchart } = .ok shown ∧
      shown.text = whole.text :=
  ⟨(diagrams_hide_private_lines {} "typescript" "" signedTree {}).1 rfl,
    (diagrams_hide_private_lines {} "typescript" "" signedTree
      { diagramType := .flowchart }).2 rfl⟩

end SourceAtlas
