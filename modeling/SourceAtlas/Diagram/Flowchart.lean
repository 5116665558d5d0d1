import SourceAtlas.Diagram.Drawing

/-!
Flowcharts: a node for every entity, shaped by its kind, and an edge for every relationship.

The functions that say which lines there are come first, each beside the one that writes them.
-/

namespace SourceAtlas.Flowchart

def reservedIds : List String := ["end"]

/-- The name of a node. A reserved word is written with `_` behind it. -/
def nodeId (name : String) : String :=
  let id := Text.identifier name
  if reservedIds.contains id then id ++ "_" else id

/-- The brackets around a node's label, which give the node its shape. -/
def brackets : EntityKind → String × String
  | .objectClass => ("[", "]")
  | .interface => ("([", "])")
  | .function => ("[[", "]]")
  | .enumeration => ("\x7b\x7b", "\x7d\x7d")
  | .binding => ("(", ")")

def edgeToken : RelationshipKind → String
  | .inheritance => "-->"
  | .dependency => "-.->"
  | .composition => "==>"
  | .aggregation => "--o"
  | .association => "---"

def nodeLine (entity : Entity) : Line :=
  [indent, nodeId entity.name, (brackets entity.kind).1, "\"", Text.label entity.name, "\"",
    (brackets entity.kind).2, "\n"]

def writeNode (entity : Entity) : Writing Unit :=
  Writing.pieces (nodeLine entity)

-- A label that is blank is not written.
def labelText? (label : Option String) : Option String :=
  (label.map Text.label).filter fun text => !text.isEmpty

def edgeLine (relationship : Relationship) : Line :=
  [indent, nodeId relationship.source, " ", edgeToken relationship.kind] ++
    ((labelText? relationship.label).map fun text => ["|", text, "|"]).getD [] ++
    [" ", nodeId relationship.target, "\n"]

def writeEdge (relationship : Relationship) : Writing Unit := do
  Writing.pieces [indent, nodeId relationship.source, " ", edgeToken relationship.kind]
  Writing.given (fun text => Writing.pieces ["|", text, "|"]) (labelText? relationship.label)
  Writing.pieces [" ", nodeId relationship.target, "\n"]

theorem write_edge (relationship : Relationship) :
    writeEdge relationship = Writing.pieces (edgeLine relationship) := by
  simp only [writeEdge, edgeLine, Writing.given_pieces, Writing.pieces_append, bind_assoc]

-- A flowchart always has a direction, and runs downwards unless another one is wanted.
def draw (analysis : Analysis) (options : EncodeOptions) : Drawing :=
  let direction := options.direction.getD .topBottom
  { lines := [[DiagramType.flowchart.keyword, " ", direction.name, "\n"]] ++ titleLines options ++
      analysis.entities.map nodeLine ++ analysis.relationships.map edgeLine
    nodeCount := analysis.entities.length
    edgeCount := analysis.relationships.length }

/-- Write a flowchart, and report how many nodes and how many edges were written. -/
def writeDiagram (analysis : Analysis) (options : EncodeOptions) : Writing (Nat × Nat) := do
  let direction := options.direction.getD .topBottom
  Writing.pieces [DiagramType.flowchart.keyword, " ", direction.name, "\n"]
  writeTitle options
  let _ ← Writing.each writeNode analysis.entities
  let _ ← Writing.each writeEdge analysis.relationships
  return (analysis.entities.length, analysis.relationships.length)

theorem write_diagram (analysis : Analysis) (options : EncodeOptions) :
    writeDiagram analysis options = (draw analysis options).write := by
  have nodes : writeNode = fun entity => Writing.pieces (nodeLine entity) := rfl
  have edges : writeEdge = fun relationship => Writing.pieces (edgeLine relationship) :=
    funext write_edge
  simp only [writeDiagram, Drawing.write, Drawing.pieces, draw, write_title, nodes, edges,
    Writing.each_pieces, Writing.pieces_append, List.flatten_append, List.flatMap_def,
    List.flatten_singleton, bind_assoc, pure_bind]

end SourceAtlas.Flowchart
