import SourceAtlas.Diagram.Drawing

/-!
Class diagrams: a block for every class and interface, and a line for every relationship.

The functions that say which lines there are come first, each beside the one that writes them.
-/

namespace SourceAtlas.ClassDiagram

/-- A field is written as its sign, name and type, and a shared one ends in `$`. -/
def propertyLine (property : Property) : String :=
  property.visibility.sign.toString ++ (if property.isReadonly then "readonly " else "") ++
    Text.memberText property.name ++ ": " ++ Text.memberText property.type ++
    (if property.isStatic then "$" else "")

def parameterText (parameter : Parameter) : String :=
  Text.memberText parameter.name ++ (if parameter.optional then "?" else "") ++ ": " ++
    Text.memberText parameter.type

/-- A method is written with its parameters. A shared one ends in `$`, one without a body in `*`. -/
def methodLine (method : Method) : String :=
  method.visibility.sign.toString ++ Text.memberText method.name ++ "(" ++
    ", ".intercalate (method.parameters.map parameterText) ++ "): " ++
    Text.memberText method.returnType ++ (if method.isStatic then "$" else "") ++
    (if method.isAbstract then "*" else "")

def stereotype? (entity : Entity) : Option String :=
  if entity.kind = .interface then some "interface"
  else if entity.isAbstract then some "abstract"
  else none

def stereotypeLines (entity : Entity) : List Line :=
  (stereotype? entity).toList.map fun stereotype =>
    [indent, indent, "<<" ++ stereotype ++ ">>\n"]

def memberLines (entity : Entity) : List Line :=
  (entity.properties.map propertyLine ++ entity.methods.map methodLine).map fun member =>
    [indent, indent, member, "\n"]

def blockLines (entity : Entity) : List Line :=
  [[indent, "class ", Text.identifier entity.name, " \x7b\n"]] ++ stereotypeLines entity ++
    memberLines entity ++ [[indent, "\x7d\n"]]

def writeBlock (entity : Entity) : Writing Unit := do
  Writing.pieces [indent, "class ", Text.identifier entity.name, " \x7b\n"]
  Writing.given (fun stereotype => Writing.pieces [indent, indent, "<<" ++ stereotype ++ ">>\n"])
    (stereotype? entity)
  let _ ← Writing.each
    (fun property => Writing.pieces [indent, indent, propertyLine property, "\n"]) entity.properties
  let _ ← Writing.each
    (fun method => Writing.pieces [indent, indent, methodLine method, "\n"]) entity.methods
  Writing.pieces [indent, "\x7d\n"]

theorem write_block (entity : Entity) :
    writeBlock entity = Writing.pieces (blockLines entity).flatten := by
  have stereotypes : (stereotypeLines entity).flatten = ((stereotype? entity).map
      fun stereotype => [indent, indent, "<<" ++ stereotype ++ ">>\n"]).getD [] := by
    rw [stereotypeLines]
    cases stereotype? entity <;> simp
  simp only [writeBlock, blockLines, memberLines, stereotypes, Writing.given_pieces,
    Writing.each_pieces, Writing.pieces_append, List.flatten_append, List.map_append, List.map_map,
    List.flatMap_def, List.flatten_singleton, bind_assoc, pure_bind, Function.comp_def]

def edgeToken : RelationshipKind → String
  | .inheritance => "--|>"
  | .composition => "*--"
  | .aggregation => "o--"
  | .association => "-->"
  | .dependency => "..>"

-- Multiplicities stand between double quotes and cannot hold one.
def multiplicityText (multiplicity : String) : String :=
  String.ofList ((Text.singleLine multiplicity).toList.map fun c => if c == '"' then '\'' else c)

-- A label that is blank is not written.
def labelText? (label : Option String) : Option String :=
  (label.map Text.singleLine).filter fun text => !text.isEmpty

def edgeLine (relationship : Relationship) : Line :=
  [indent, Text.identifier relationship.source, " ", edgeToken relationship.kind] ++
    (relationship.multiplicity.map fun text => [" \"", multiplicityText text, "\""]).getD [] ++
    [" ", Text.identifier relationship.target] ++
    ((labelText? relationship.label).map fun text => [" : ", text]).getD [] ++ ["\n"]

def writeEdge (relationship : Relationship) : Writing Unit := do
  Writing.pieces
    [indent, Text.identifier relationship.source, " ", edgeToken relationship.kind]
  Writing.given (fun text => Writing.pieces [" \"", multiplicityText text, "\""])
    relationship.multiplicity
  Writing.pieces [" ", Text.identifier relationship.target]
  Writing.given (fun text => Writing.pieces [" : ", text]) (labelText? relationship.label)
  Writing.pieces ["\n"]

theorem write_edge (relationship : Relationship) :
    writeEdge relationship = Writing.pieces (edgeLine relationship) := by
  simp only [writeEdge, edgeLine, Writing.given_pieces, Writing.pieces_append, bind_assoc]

def directionLines (options : EncodeOptions) : List Line :=
  options.direction.toList.map fun direction => [indent, "direction ", direction.name, "\n"]

def classifiers (analysis : Analysis) : List Entity :=
  analysis.entities.filter fun entity => entity.kind.isClassifier

def draw (analysis : Analysis) (options : EncodeOptions) : Drawing :=
  { lines := [[DiagramType.classes.keyword, "\n"]] ++ directionLines options ++
      titleLines options ++ (classifiers analysis).flatMap blockLines ++
      analysis.relationships.map edgeLine
    nodeCount := (classifiers analysis).length
    edgeCount := analysis.relationships.length }

/-- Write a diagram, and report how many blocks and how many edges were written. -/
def writeDiagram (analysis : Analysis) (options : EncodeOptions) : Writing (Nat × Nat) := do
  Writing.pieces [DiagramType.classes.keyword, "\n"]
  Writing.given
    (fun direction => Writing.pieces [indent, "direction ", Direction.name direction, "\n"])
    options.direction
  writeTitle options
  let blocks ← Writing.each writeBlock (classifiers analysis)
  let _ ← Writing.each writeEdge analysis.relationships
  return (blocks, analysis.relationships.length)

theorem write_diagram (analysis : Analysis) (options : EncodeOptions) :
    writeDiagram analysis options = (draw analysis options).write := by
  have directions : (directionLines options).flatten = (options.direction.map
      fun direction => [indent, "direction ", Direction.name direction, "\n"]).getD [] := by
    rw [directionLines]
    cases options.direction <;> simp
  have blocks : writeBlock = fun entity => Writing.pieces (blockLines entity).flatten :=
    funext write_block
  have edges : writeEdge = fun relationship => Writing.pieces (edgeLine relationship) :=
    funext write_edge
  simp only [writeDiagram, Drawing.write, Drawing.pieces, draw, write_title, directions, blocks,
    edges, Writing.given_pieces, Writing.each_pieces, Writing.pieces_append, List.flatten_append,
    List.flatMap_def, List.flatten_flatten, List.map_map, List.flatten_singleton, bind_assoc,
    pure_bind, Function.comp_def]

end SourceAtlas.ClassDiagram
