import SourceAtlas.Diagram.ClassDiagram
import SourceAtlas.Diagram.Flowchart
import SourceAtlas.Error

/-!
Encoders: each turns an analysis into a diagram of one type. An encoder comes with the drawing of
what it writes, so that what is in a diagram need not be asked of its writing.
-/

namespace SourceAtlas

structure DiagramMetadata where
  nodeCount : Nat
  edgeCount : Nat
  elapsedMs : Nat := 0
  diagramType : DiagramType
  deriving DecidableEq, Repr

structure EncodedDiagram where
  text : String
  metadata : DiagramMetadata
  deriving DecidableEq, Repr

structure Encoder where
  name : String
  diagramType : DiagramType
  /-- The code of the error when a diagram does not fit on its sheet. -/
  failureCode : String
  draw : Analysis → EncodeOptions → Drawing
  write : Analysis → EncodeOptions → Writing (Nat × Nat)
  drawn : ∀ analysis options, write analysis options = (draw analysis options).write

namespace Encoder

def classes : Encoder :=
  { name := "mermaid-class", diagramType := .classes
    failureCode := "CLASS_DIAGRAM_GENERATION_ERROR", draw := ClassDiagram.draw
    write := ClassDiagram.writeDiagram, drawn := ClassDiagram.write_diagram }

def flowchart : Encoder :=
  { name := "mermaid-flowchart", diagramType := .flowchart
    failureCode := "FLOWCHART_GENERATION_ERROR", draw := Flowchart.draw
    write := Flowchart.writeDiagram, drawn := Flowchart.write_diagram }

/-- Write a diagram on a sheet. An encoder refuses every type but its own before it writes
anything; what is on the sheet after a failure is a beginning of the diagram. -/
def encodeOn (encoder : Encoder) (sheet : Sheet) (analysis : Analysis) (options : EncodeOptions) :
    Except GenerationError DiagramMetadata × Sheet :=
  if options.diagramType = encoder.diagramType then
    match (encoder.write analysis options).run sheet with
    | (some (nodeCount, edgeCount), written) =>
      (.ok { nodeCount, edgeCount, diagramType := encoder.diagramType }, written)
    | (none, written) => (.error (.unwritten encoder.failureCode analysis), written)
  else (.error (.invalidDiagramType options.diagramType encoder.diagramType.name), sheet)

/-- The diagram of an analysis, whole or not at all. -/
def encodeWithin (encoder : Encoder) (room : Option Nat) (analysis : Analysis)
    (options : EncodeOptions) : Except GenerationError EncodedDiagram :=
  match encoder.encodeOn { room } analysis options with
  | (.ok metadata, sheet) => .ok { text := sheet.written, metadata }
  | (.error error, _) => .error error

def encode (encoder : Encoder) (analysis : Analysis) (options : EncodeOptions) :
    Except GenerationError EncodedDiagram :=
  encoder.encodeWithin none analysis options

end Encoder

end SourceAtlas
