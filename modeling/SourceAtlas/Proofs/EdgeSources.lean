import SourceAtlas.Analyze
import SourceAtlas.Proofs.ClassLines
import SourceAtlas.Proofs.Extraction
import SourceAtlas.Proofs.FlowchartLines

/-!
Where edges start. Only classes and interfaces have supertypes, and these are the entities that both
kinds of diagram draw. An edge is written with the name of its entity, made fit by the same function
as on the entity's own line, so it starts at something that is drawn.
-/

open SourceAtlas.Text

namespace SourceAtlas

namespace Outline

theorem entity_described (options : AnalysisOptions) (root : Tree.Node) (entity : Entity)
    (member : entity ∈ entities options root) : ∃ node, Describes options entity node := by
  obtain ⟨occurrence, _, described⟩ := entity_occurs options root entity member
  exact ⟨occurrence.2, described⟩

/-- An entity that extends or implements anything is a class or an interface. -/
theorem described_supertypes (options : AnalysisOptions) (entity : Entity) (node : Tree.Node)
    (described : Describes options entity node)
    (supertypes : entity.bases ≠ [] ∨ entity.interfaces ≠ []) :
    entity.kind.isClassifier = true := by
  have rule := described.rule
  unfold FollowsRule at rule
  split at rule
  · rw [rule]
    rfl
  · rw [rule]
    rfl
  · rw [rule] at supertypes
    rcases supertypes with bases | interfaces
    · exact absurd rfl bases
    · exact absurd rfl interfaces
  · rw [rule] at supertypes
    rcases supertypes with bases | interfaces
    · exact absurd rfl bases
    · exact absurd rfl interfaces
  · exact rule.elim

end Outline

theorem Relationship.derived_source (entities : List Entity) (relationship : Relationship)
    (member : relationship ∈ derive entities) :
    ∃ entity ∈ entities, relationship.source = entity.name ∧
      (entity.bases ≠ [] ∨ entity.interfaces ≠ []) := by
  obtain ⟨entity, entityMember, edge⟩ := List.mem_flatMap.mp member
  refine ⟨entity, entityMember, ?_⟩
  rcases List.mem_append.mp edge with extending | implementing
  · obtain ⟨base, baseMember, same⟩ := List.mem_map.mp extending
    subst same
    exact ⟨rfl, Or.inl (List.ne_nil_of_mem baseMember)⟩
  · obtain ⟨interface, interfaceMember, same⟩ := List.mem_map.mp implementing
    subst same
    exact ⟨rfl, Or.inr (List.ne_nil_of_mem interfaceMember)⟩

/-- Every relationship of an analysed tree starts at one of its classes or interfaces. -/
theorem analysis_edge_source (options : AnalysisOptions) (language source : String)
    (root : Tree.Node) (relationship : Relationship)
    (member : relationship ∈ (analyzeTree options language source root).relationships) :
    ∃ entity ∈ ClassDiagram.classifiers (analyzeTree options language source root),
      relationship.source = entity.name := by
  obtain ⟨entity, entityMember, named, supertypes⟩ :=
    Relationship.derived_source (Outline.entities options root) relationship member
  obtain ⟨node, described⟩ := Outline.entity_described options root entity entityMember
  have drawn := Outline.described_supertypes options entity node described supertypes
  exact ⟨entity, List.mem_filter.mpr ⟨entityMember, drawn⟩, named⟩

theorem edge_count (token : RelationshipKind → String) (relationships : List Relationship)
    (body : Relationship → List Char) (text : List Char)
    (edges : (lines text).filter (isEdgeLine token) = relationships.map body) :
    (lines text).countP (isEdgeLine token) = relationships.length := by
  rw [List.countP_eq_length_filter, edges, List.length_map]

/-- A line that has the shape of an edge is the edge of a relationship, and starts at its source. -/
theorem edge_shape_source (token : RelationshipKind → String) (idOf : String → String)
    (isWord : ∀ name, Word (idOf name).toList) (tailOf : Relationship → Line)
    (relationships : List Relationship) (text : List Char)
    (edges : (lines text).filter (isEdgeLine token) = relationships.map fun relationship =>
      edgeBody (idOf relationship.source) (token relationship.kind) (tailOf relationship))
    (kind : RelationshipKind) (id rest : List Char) (word : Word id)
    (member : indent.toList ++ (id ++ ' ' :: ((token kind).toList ++ rest)) ∈ lines text) :
    ∃ relationship ∈ relationships, (idOf relationship.source).toList = id := by
  have edge := (edge_line_iff token _).mpr ⟨kind, id, rest, word, rfl⟩
  have listed := List.mem_filter.mpr ⟨member, edge⟩
  rw [edges] at listed
  obtain ⟨relationship, relationshipMember, same⟩ := List.mem_map.mp listed
  refine ⟨relationship, relationshipMember, ?_⟩
  have left := leading_word_cons _ ((token relationship.kind).toList ++
    (tailOf relationship).flatMap String.toList) ' ' (isWord relationship.source) (by decide)
  have right := leading_word_cons id ((token kind).toList ++ rest) ' ' word (by decide)
  rw [← edgeBody, same, right] at left
  exact (Prod.mk.inj (Option.some.inj left)).1.symm

namespace ClassDiagram

theorem block_drawn (analysis : Analysis) (options : EncodeOptions) (entity : Entity)
    (member : entity ∈ classifiers analysis) :
    "    class ".toList ++ (identifier entity.name).toList ++ " \x7b".toList ∈
      lines (draw analysis options).text.toList := by
  rw [Drawing.lines_of_text _ (draw_lined analysis options), opening_shape,
    ← reads_body _ _ (opening_reads entity.name)]
  apply List.mem_map_of_mem
  have opening : [indent, "class ", identifier entity.name, " \x7b\n"] ∈ blockLines entity := by
    rw [block_split]
    exact List.mem_cons_self
  have block := List.mem_flatMap.mpr ⟨entity, member, opening⟩
  simp only [draw]
  exact List.mem_append_left _ (List.mem_append_right _ block)

theorem draw_edges (analysis : Analysis) (options : EncodeOptions) :
    (lines (draw analysis options).text.toList).filter (isEdgeLine edgeToken) =
      analysis.relationships.map fun relationship => edgeBody (identifier relationship.source)
        (edgeToken relationship.kind) (edgeTail relationship) := by
  rw [(draw_itemized analysis options).edgeLines]
  exact List.map_congr_left fun relationship _ => reads_body _ _ (edge_reads relationship)

end ClassDiagram

namespace Flowchart

theorem node_drawn (analysis : Analysis) (options : EncodeOptions) (entity : Entity)
    (member : entity ∈ analysis.entities) :
    indent.toList ++ ((nodeId entity.name).toList ++ ((brackets entity.kind).1.toList ++
      '"' :: ((label entity.name).toList ++ '"' :: (brackets entity.kind).2.toList))) ∈
      lines (draw analysis options).text.toList := by
  rw [Drawing.lines_of_text _ (draw_lined analysis options), ← reads_body _ _ (node_reads entity)]
  apply List.mem_map_of_mem
  simp only [draw]
  exact List.mem_append_left _ (List.mem_append_right _ (List.mem_map_of_mem member))

theorem draw_edges (analysis : Analysis) (options : EncodeOptions) :
    (lines (draw analysis options).text.toList).filter (isEdgeLine edgeToken) =
      analysis.relationships.map fun relationship => edgeBody (nodeId relationship.source)
        (edgeToken relationship.kind) (edgeTail relationship) := by
  rw [(draw_itemized analysis options).edgeLines]
  exact List.map_congr_left fun relationship _ => reads_body _ _ (edge_reads relationship)

end Flowchart

/-- There is a line in the shape of an edge for each relationship, and whatever identifier stands
at the front of such a line is that of a block, or of a node, in the same text. -/
theorem edges_start_at_drawn_entities (options : AnalysisOptions) (language source : String)
    (root : Tree.Node) (layout : EncodeOptions) :
    (layout.diagramType = .classes →
      ∃ diagram,
        Encoder.classes.encode (analyzeTree options language source root) layout = .ok diagram ∧
        (lines diagram.text.toList).countP (isEdgeLine ClassDiagram.edgeToken) =
          (analyzeTree options language source root).relationships.length ∧
        ∀ kind id rest, Word id →
          indent.toList ++ (id ++ ' ' :: ((ClassDiagram.edgeToken kind).toList ++ rest)) ∈
            lines diagram.text.toList →
          "    class ".toList ++ id ++ " \x7b".toList ∈ lines diagram.text.toList) ∧
    (layout.diagramType = .flowchart →
      ∃ diagram,
        Encoder.flowchart.encode (analyzeTree options language source root) layout =
          .ok diagram ∧
        (lines diagram.text.toList).countP (isEdgeLine Flowchart.edgeToken) =
          (analyzeTree options language source root).relationships.length ∧
        ∀ kind id rest, Word id →
          indent.toList ++ (id ++ ' ' :: ((Flowchart.edgeToken kind).toList ++ rest)) ∈
            lines diagram.text.toList →
          ∃ shape text, indent.toList ++ (id ++ ((Flowchart.brackets shape).1.toList ++
            '"' :: (text ++ '"' :: (Flowchart.brackets shape).2.toList))) ∈
              lines diagram.text.toList) := by
  constructor
  · intro own
    have edges := ClassDiagram.draw_edges (analyzeTree options language source root) layout
    refine ⟨_, Encoder.encode_whole .classes _ layout own, edge_count _ _ _ _ edges, ?_⟩
    intro kind id rest word member
    obtain ⟨relationship, edge, same⟩ := edge_shape_source ClassDiagram.edgeToken identifier
      identifier_word ClassDiagram.edgeTail _ _ edges kind id rest word member
    obtain ⟨entity, drawn, named⟩ := analysis_edge_source options language source root _ edge
    rw [← same, named]
    exact ClassDiagram.block_drawn _ layout entity drawn
  · intro own
    have edges := Flowchart.draw_edges (analyzeTree options language source root) layout
    refine ⟨_, Encoder.encode_whole .flowchart _ layout own, edge_count _ _ _ _ edges, ?_⟩
    intro kind id rest word member
    obtain ⟨relationship, edge, same⟩ := edge_shape_source Flowchart.edgeToken Flowchart.nodeId
      Flowchart.node_id_word Flowchart.edgeTail _ _ edges kind id rest word member
    obtain ⟨entity, drawn, named⟩ := analysis_edge_source options language source root _ edge
    rw [← same, named]
    exact ⟨entity.kind, _, Flowchart.node_drawn _ layout entity (List.mem_filter.mp drawn).1⟩

/-- A class named by a reserved word, with a base and an interface, behind a function. -/
def derivedTree : Tree.Node :=
  let node (kind : Tree.Kind) (text : String) (fields : List (Tree.Field × Tree.Node))
      (children : List Tree.Node) : Tree.Node :=
    { mark := 0, kind, text, position := .start, fields, children }
  let leading := node .functionDecl "" [] []
  let name := node .typeName "end" [] []
  let base := node .identifier "Base" [] []
  let clause := node .other "" [] [node .typeName "Closable" [] []]
  let derived := node .classDecl "" [(.name, name), (.extending, base), (.implementing, clause)]
    [name, base, clause]
  node .other "" [] [leading, derived]

theorem edges_start_at_drawn_entities_reserved :
    (∃ diagram, Encoder.classes.encode (analyzeTree {} "typescript" "" derivedTree) {} =
        .ok diagram ∧
      (lines diagram.text.toList).countP (isEdgeLine ClassDiagram.edgeToken) = 2 ∧
      ∀ kind id rest, Word id →
        indent.toList ++ (id ++ ' ' :: ((ClassDiagram.edgeToken kind).toList ++ rest)) ∈
          lines diagram.text.toList →
        "    class ".toList ++ id ++ " \x7b".toList ∈ lines diagram.text.toList) ∧
    ∃ diagram, Encoder.flowchart.encode (analyzeTree {} "typescript" "" derivedTree)
        { diagramType := .flowchart } = .ok diagram ∧
      (lines diagram.text.toList).countP (isEdgeLine Flowchart.edgeToken) = 2 ∧
      ∀ kind id rest, Word id →
        indent.toList ++ (id ++ ' ' :: ((Flowchart.edgeToken kind).toList ++ rest)) ∈
          lines diagram.text.toList →
        ∃ shape text, indent.toList ++ (id ++ ((Flowchart.brackets shape).1.toList ++
          '"' :: (text ++ '"' :: (Flowchart.brackets shape).2.toList))) ∈
            lines diagram.text.toList := by
  have two : (analyzeTree {} "typescript" "" derivedTree).relationships.length = 2 := by
    decide +kernel
  rw [← two]
  exact ⟨(edges_start_at_drawn_entities {} "typescript" "" derivedTree {}).1 rfl,
    (edges_start_at_drawn_entities {} "typescript" "" derivedTree
      { diagramType := .flowchart }).2 rfl⟩

example : (Relationship.derive (Outline.entities {} derivedTree)).map
    (fun relationship => (relationship.source, relationship.target)) =
      [("end", "Base"), ("end", "Closable")] := by
  cbv

end SourceAtlas
