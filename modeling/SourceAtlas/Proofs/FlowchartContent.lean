import Mathlib.Data.List.Basic
import SourceAtlas.Proofs.FlowchartLines
import SourceAtlas.Proofs.NormalForms
import SourceAtlas.Proofs.UniqueReading

/-!
What a flowchart says. Its content is the graph it draws: a name, a kind and a label for every
entity, and a kind, two ends and a label for every relationship, spelled out here without the
functions that draw. Quotes and bars are written as codes inside labels, so a label ends at the
first mark behind it, and the graph can be read off the text. Nothing else of an analysis leaves a
trace there.
-/

open SourceAtlas.Text

namespace SourceAtlas.Flowchart

structure Node where
  id : String
  kind : EntityKind
  label : String
  deriving DecidableEq, Repr

structure Edge where
  source : String
  kind : RelationshipKind
  label : Option String
  target : String
  deriving DecidableEq, Repr

structure Content where
  direction : Direction
  title : Option String
  nodes : List Node
  edges : List Edge
  deriving DecidableEq, Repr

/-- The id of an entity or of an end of an edge. The word that closes a block gets a mark. -/
def drawnId (name : String) : String :=
  if identifier name = "end" then "end_" else identifier name

def nodeOf (entity : Entity) : Node :=
  { id := drawnId entity.name, kind := entity.kind, label := label entity.name }

def edgeOf (relationship : Relationship) : Edge :=
  { source := drawnId relationship.source
    kind := relationship.kind
    label := relationship.label.bind (shown? label)
    target := drawnId relationship.target }

def contentOf (analysis : Analysis) (options : EncodeOptions) : Content :=
  { direction := options.direction.getD .topBottom
    title := drawnTitle? options
    nodes := analysis.entities.map nodeOf
    edges := analysis.relationships.map edgeOf }

/-! The functions that draw spell the same. -/

theorem node_id_spelled : nodeId = drawnId := by
  funext name
  by_cases reserved : identifier name = "end" <;>
    simp [nodeId, drawnId, reservedIds, reserved]

theorem label_text_spelled (given : Option String) :
    labelText? given = given.bind (shown? label) :=
  shown_filter label label_empty given

theorem node_spelled (entity : Entity) :
    nodeOf entity =
      { id := nodeId entity.name, kind := entity.kind, label := label entity.name } := by
  rw [nodeOf, node_id_spelled]

theorem edge_spelled (relationship : Relationship) :
    edgeOf relationship =
      { source := nodeId relationship.source
        kind := relationship.kind
        label := labelText? relationship.label
        target := nodeId relationship.target } := by
  rw [edgeOf, node_id_spelled, label_text_spelled]

/-! The text is made from the content alone. -/

def Node.line (node : Node) : Line :=
  [indent, node.id, (brackets node.kind).1, "\"", node.label, "\"", (brackets node.kind).2, "\n"]

def Edge.line (edge : Edge) : Line :=
  [indent, edge.source, " ", edgeToken edge.kind] ++
    (edge.label.map fun text => ["|", text, "|"]).getD [] ++ [" ", edge.target, "\n"]

def Content.lines (content : Content) : List Line :=
  [[DiagramType.flowchart.keyword, " ", content.direction.name, "\n"]] ++
    content.title.toList.map (fun title => [indent, "accTitle: ", title, "\n"]) ++
    content.nodes.map Node.line ++ content.edges.map Edge.line

theorem draw_content (analysis : Analysis) (options : EncodeOptions) :
    (draw analysis options).lines = (contentOf analysis options).lines := by
  have nodes : (contentOf analysis options).nodes.map Node.line =
      analysis.entities.map nodeLine := by
    rw [contentOf, List.map_map]
    exact List.map_congr_left fun entity _ => by rw [Function.comp_apply, node_spelled]; rfl
  have edges : (contentOf analysis options).edges.map Edge.line =
      analysis.relationships.map edgeLine := by
    rw [contentOf, List.map_map]
    exact List.map_congr_left fun relationship _ => by
      rw [Function.comp_apply, edge_spelled]
      rfl
  rw [Content.lines, nodes, edges, draw, titles_drawn]
  rfl

/-! Reading the lines of each section. -/

theorem brackets_apart (kind other : EntityKind)
    (begins : (brackets kind).1.toList ++ ['"'] <+: (brackets other).1.toList ++ ['"']) :
    kind = other := by
  revert begins
  cases kind <;> cases other <;> decide

theorem node_unique (entity other : Entity)
    (same : lineBody (nodeLine entity) = lineBody (nodeLine other)) :
    nodeOf entity = nodeOf other := by
  have stops : ∀ kind rest, (((brackets kind).1.toList ++ rest).head?.all
      fun c => !isIdentifierChar c) = true := by
    intro kind rest
    cases kind <;> rfl
  have unquoted := fun text c member => (label_unmarked text c member).1
  rw [reads_body _ _ (node_reads entity), reads_body _ _ (node_reads other)] at same
  obtain ⟨ids, shapes⟩ := run_unique isIdentifierChar _ _ _ _ (node_id_word entity.name).2
    (node_id_word other.name).2 (stops _ _) (stops _ _) (List.append_cancel_left same)
  rw [List.append_cons, List.append_cons (brackets other.kind).1.toList] at shapes
  obtain ⟨kinds, labels⟩ := code_unique (fun kind => (brackets kind).1.toList ++ ['"'])
    brackets_apart _ _ _ _ shapes
  obtain ⟨texts, _⟩ := run_unique (· != '"') _ _ _ _ (unquoted entity.name) (unquoted other.name)
    rfl rfl labels
  rw [node_spelled, node_spelled, Node.mk.injEq]
  exact ⟨String.toList_injective ids, kinds, String.toList_injective texts⟩

theorem tokens_apart (kind other : RelationshipKind)
    (begins : (edgeToken kind).toList <+: (edgeToken other).toList) : kind = other := by
  revert begins
  cases kind <;> cases other <;> decide

theorem edge_tail_chars (relationship : Relationship) :
    (edgeTail relationship).flatMap String.toList =
      ((labelText? relationship.label).map fun text => '|' :: (text.toList ++ ['|'])).getD [] ++
        ' ' :: (nodeId relationship.target).toList := by
  cases given : labelText? relationship.label <;> simp [edgeTail, given]

theorem label_written_unbarred (relationship : Relationship) (text : String)
    (written : labelText? relationship.label = some text) :
    ∀ c ∈ text.toList, (c != '|') = true := by
  obtain ⟨mapped, _⟩ := Option.filter_eq_some_iff.mp written
  obtain ⟨source, _, same⟩ := Option.map_eq_some_iff.mp mapped
  subst same
  exact fun c member => (label_unmarked source c member).2

theorem edge_tail_unique (relationship other : Relationship)
    (same : (edgeTail relationship).flatMap String.toList =
      (edgeTail other).flatMap String.toList) :
    labelText? relationship.label = labelText? other.label ∧
      nodeId relationship.target = nodeId other.target := by
  rw [edge_tail_chars, edge_tail_chars] at same
  cases left : labelText? relationship.label with
  | none =>
      cases right : labelText? other.label with
      | none =>
          simp only [left, right, Option.map_none, Option.getD_none, List.nil_append,
            List.cons.injEq, true_and] at same
          exact ⟨rfl, String.toList_injective same⟩
      | some text => simp [left, right] at same
  | some text =>
      cases right : labelText? other.label with
      | none => simp [left, right] at same
      | some next =>
          simp only [left, right, Option.map_some, Option.getD_some, List.cons_append,
            List.cons.injEq, true_and, List.append_assoc, List.nil_append] at same
          obtain ⟨texts, targets⟩ := run_unique (· != '|') _ _ _ _
            (label_written_unbarred relationship text left)
            (label_written_unbarred other next right) rfl rfl same
          rw [List.cons.injEq, List.cons.injEq] at targets
          exact ⟨by rw [String.toList_injective texts], String.toList_injective targets.2.2⟩

theorem edge_unique (relationship other : Relationship)
    (same : lineBody (edgeLine relationship) = lineBody (edgeLine other)) :
    edgeOf relationship = edgeOf other := by
  rw [reads_body _ _ (edge_reads relationship), reads_body _ _ (edge_reads other)] at same
  obtain ⟨sources, kinds, tails⟩ := edge_body_unique edgeToken tokens_apart _ _ _ _ _ _
    (node_id_word relationship.source) (node_id_word other.source) same
  obtain ⟨labels, targets⟩ := edge_tail_unique relationship other tails
  rw [edge_spelled, edge_spelled, Edge.mk.injEq]
  exact ⟨sources, kinds, labels, targets⟩

theorem opening_unique (options others : EncodeOptions)
    (same : lineBody (openingLine options) = lineBody (openingLine others)) :
    options.direction.getD .topBottom = others.direction.getD .topBottom := by
  revert same
  unfold openingLine
  cases options.direction.getD .topBottom <;> cases others.direction.getD .topBottom <;> decide

/-! The sections of a flowchart. -/

theorem node_not_title (entity : Entity) : isTitleLine (lineBody (nodeLine entity)) = false := by
  obtain ⟨c, rest, start, stops, _⟩ := brackets_start entity.kind
  have noColon : c ≠ ':' := by
    intro colon
    subst colon
    revert start
    cases entity.kind <;> simp [brackets]
  rw [reads_body _ _ (node_reads entity), start, List.cons_append,
    title_line_follower _ _ c (node_id_word entity.name) stops]
  simpa using noColon

theorem edge_not_title (relationship : Relationship) :
    isTitleLine (lineBody (edgeLine relationship)) = false := by
  rw [reads_body _ _ (edge_reads relationship), edgeBody]
  exact title_line_follower _ _ ' ' (node_id_word relationship.source) (by decide)

theorem draw_bodies (analysis : Analysis) (options : EncodeOptions) :
    (draw analysis options).lines.map lineBody =
      lineBody (openingLine options) :: ((titleLines options).map lineBody ++
        (analysis.entities.map (fun entity => lineBody (nodeLine entity)) ++
          analysis.relationships.map fun relationship => lineBody (edgeLine relationship))) := by
  simp only [draw, openingLine, List.map_append, List.map_cons, List.map_map, Function.comp_def,
    List.append_assoc, List.cons_append, List.nil_append]

theorem content_unique (analysis other : Analysis) (options others : EncodeOptions)
    (same : (draw analysis options).lines.map lineBody = (draw other others).lines.map lineBody) :
    contentOf analysis options = contentOf other others := by
  have items : ∀ analysis : Analysis, ∀ line ∈
      analysis.entities.map (fun entity => lineBody (nodeLine entity)) ++
        analysis.relationships.map (fun relationship => lineBody (edgeLine relationship)),
      isTitleLine line = false := by
    intro analysis
    rw [List.forall_mem_append, List.forall_mem_map, List.forall_mem_map]
    exact ⟨fun entity _ => node_not_title entity, fun relationship _ => edge_not_title relationship⟩
  have nodes : ∀ analysis : Analysis, ∀ line ∈
      analysis.entities.map (fun entity => lineBody (nodeLine entity)),
      isEdgeLine edgeToken line = false := by
    intro analysis
    rw [List.forall_mem_map]
    exact fun entity _ => node_not_edge entity
  have edges : ∀ analysis : Analysis, ∀ line ∈
      analysis.relationships.map (fun relationship => lineBody (edgeLine relationship)),
      isEdgeLine edgeToken line = true := by
    intro analysis
    rw [List.forall_mem_map]
    exact fun relationship _ => edge_is_edge relationship
  rw [draw_bodies, draw_bodies, List.cons.injEq] at same
  obtain ⟨titles, later⟩ := section_unique isTitleLine _ _ _ _ (titles_are_titles options)
    (titles_are_titles others) (items analysis) (items other) same.2
  obtain ⟨front, back⟩ := last_section_unique (isEdgeLine edgeToken) _ _ _ _
    (nodes analysis) (nodes other) (edges analysis) (edges other) later
  rw [contentOf, contentOf, Content.mk.injEq]
  exact ⟨opening_unique options others same.1, titles_unique options others titles,
    lines_unique _ nodeOf node_unique _ _ front, lines_unique _ edgeOf edge_unique _ _ back⟩

/-! What is left out. -/

/-- An analysis stripped of members, modifiers, supertypes, positions, multiplicities, imports,
exports and metadata. -/
def bare (analysis : Analysis) : Analysis :=
  { entities := analysis.entities.map fun entity => { kind := entity.kind, name := entity.name }
    relationships := analysis.relationships.map fun relationship =>
      { relationship with multiplicity := none }
    imports := []
    exports := []
    metadata := {} }

theorem content_bare (analysis : Analysis) (options : EncodeOptions) :
    contentOf (bare analysis) options = contentOf analysis options := by
  simp [contentOf, bare, nodeOf, edgeOf]

theorem content_kinds (analysis other : Analysis) (options others : EncodeOptions)
    (same : contentOf analysis options = contentOf other others) :
    analysis.entities.map (·.kind) = other.entities.map (·.kind) ∧
      analysis.relationships.map (·.kind) = other.relationships.map (·.kind) := by
  have nodes := congrArg (fun content => content.nodes.map Node.kind) same
  have edges := congrArg (fun content => content.edges.map Edge.kind) same
  simp only [contentOf, List.map_map] at nodes edges
  exact ⟨nodes, edges⟩

theorem flowchart_text_determines_graph (analysis other : Analysis)
    (options others : EncodeOptions) (own : options.diagramType = .flowchart)
    (otherOwn : others.diagramType = .flowchart) :
    ∃ diagram next, Encoder.flowchart.encode analysis options = .ok diagram ∧
      Encoder.flowchart.encode other others = .ok next ∧
      (diagram.text = next.text ↔ contentOf analysis options = contentOf other others) ∧
      (options = others → bare analysis = bare other → diagram.text = next.text) ∧
      (diagram.text = next.text →
        analysis.entities.map (·.kind) = other.entities.map (·.kind) ∧
          analysis.relationships.map (·.kind) = other.relationships.map (·.kind)) := by
  have read : (draw analysis options).text = (draw other others).text →
      contentOf analysis options = contentOf other others := by
    intro same
    exact content_unique analysis other options others
      (Drawing.bodies_unique _ _ (draw_lined analysis options) (draw_lined other others) same)
  have written : contentOf analysis options = contentOf other others →
      (draw analysis options).text = (draw other others).text := by
    intro same
    simp only [Drawing.text, Drawing.pieces, draw_content, same]
  refine ⟨_, _, Encoder.encode_whole .flowchart analysis options own,
    Encoder.encode_whole .flowchart other others otherOwn, ⟨read, written⟩, ?_, ?_⟩
  · intro sameOptions sameBare
    apply written
    rw [← content_bare analysis, sameBare, content_bare other, sameOptions]
  · intro same
    exact content_kinds analysis other options others (read same)

/-- One entity whose name holds the marks that end a label, and an edge from it. -/
def markedAnalysis (kind : EntityKind) (properties : List Property)
    (multiplicity : Option String) (label : Option String) : Analysis :=
  .ofParts [{ kind, name := "a\"])", properties }]
    [{ kind := .composition, source := "a\"])", target := "end", label, multiplicity }]

theorem flowchart_text_determines_graph_marked :
    (∃ diagram next,
      Encoder.flowchart.encode (markedAnalysis .interface [] none (some "|\"|"))
        { diagramType := .flowchart } = .ok diagram ∧
      Encoder.flowchart.encode
        (markedAnalysis .interface [{ name := "p", type := "T" }] (some "1") (some "|\"|"))
        { diagramType := .flowchart } = .ok next ∧
      diagram.text = next.text) ∧
    (∃ diagram next,
      Encoder.flowchart.encode (markedAnalysis .interface [] none (some "|\"|"))
        { diagramType := .flowchart } = .ok diagram ∧
      Encoder.flowchart.encode (markedAnalysis .binding [] none (some "|\"|"))
        { diagramType := .flowchart } = .ok next ∧
      diagram.text ≠ next.text) ∧
    (∃ diagram next,
      Encoder.flowchart.encode (markedAnalysis .interface [] none (some "|\"|"))
        { diagramType := .flowchart } = .ok diagram ∧
      Encoder.flowchart.encode (markedAnalysis .interface [] none (some "|\"\""))
        { diagramType := .flowchart } = .ok next ∧
      diagram.text ≠ next.text) ∧
    ∃ diagram next,
      Encoder.flowchart.encode (markedAnalysis .interface [] none (some " \n"))
        { diagramType := .flowchart } = .ok diagram ∧
      Encoder.flowchart.encode (markedAnalysis .interface [] none none)
        { diagramType := .flowchart } = .ok next ∧
      diagram.text = next.text := by
  let options : EncodeOptions := { diagramType := .flowchart }
  let marked := markedAnalysis .interface [] none (some "|\"|")
  refine ⟨?_, ?_, ?_, ?_⟩
  · obtain ⟨diagram, next, drawn, drawnNext, _, same, _⟩ := flowchart_text_determines_graph
      marked (markedAnalysis .interface [{ name := "p", type := "T" }] (some "1") (some "|\"|"))
      options options rfl rfl
    exact ⟨diagram, next, drawn, drawnNext, same rfl rfl⟩
  · obtain ⟨diagram, next, drawn, drawnNext, _, _, kinds⟩ := flowchart_text_determines_graph
      marked (markedAnalysis .binding [] none (some "|\"|")) options options rfl rfl
    exact ⟨diagram, next, drawn, drawnNext, fun equal => absurd (kinds equal).1 (by decide)⟩
  · obtain ⟨diagram, next, drawn, drawnNext, content, _⟩ := flowchart_text_determines_graph
      marked (markedAnalysis .interface [] none (some "|\"\"")) options options rfl rfl
    exact ⟨diagram, next, drawn, drawnNext, fun equal => absurd (content.mp equal) (by decide)⟩
  · obtain ⟨diagram, next, drawn, drawnNext, content, _⟩ := flowchart_text_determines_graph
      (markedAnalysis .interface [] none (some " \n")) (markedAnalysis .interface [] none none)
      options options rfl rfl
    exact ⟨diagram, next, drawn, drawnNext, content.mpr (by decide)⟩

end SourceAtlas.Flowchart
