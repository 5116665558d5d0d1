import SourceAtlas.Diagram.Encoder

/-!
Catalogues: the encoders that are at hand, at most one for each type of diagram.
-/

namespace SourceAtlas

/-- Encoders, the latest in front: a later encoder stands in for earlier ones of its type. -/
structure Catalogue where
  encoders : List Encoder

namespace Catalogue

def empty : Catalogue := ⟨[]⟩

def register (catalogue : Catalogue) (encoder : Encoder) : Catalogue :=
  ⟨encoder :: catalogue.encoders⟩

def standard : Catalogue :=
  (empty.register .classes).register .flowchart

def encoder? (catalogue : Catalogue) (type : DiagramType) : Option Encoder :=
  catalogue.encoders.find? fun encoder => encoder.diagramType == type

def has (catalogue : Catalogue) (type : DiagramType) : Bool :=
  (catalogue.encoder? type).isSome

/-- The types that can be drawn, in the order in which types are listed. -/
def supported (catalogue : Catalogue) : List DiagramType :=
  DiagramType.all.filter catalogue.has

def supportedText (catalogue : Catalogue) : String :=
  ", ".intercalate (catalogue.supported.map DiagramType.name)

def encode (catalogue : Catalogue) (analysis : Analysis) (options : EncodeOptions) :
    Except GenerationError EncodedDiagram :=
  match catalogue.encoder? options.diagramType with
  | some encoder => encoder.encode analysis options
  | none => .error (.invalidDiagramType options.diagramType catalogue.supportedText)

end Catalogue

end SourceAtlas
