import SourceAtlas.Diagram.Catalogue
import SourceAtlas.Language
import SourceAtlas.Outline.Entities
import SourceAtlas.Outline.Modules
import SourceAtlas.TypeScript.Program

/-!
From a source text to its analysis, and on to its diagram.
-/

namespace SourceAtlas

/-- All that a tree says, for a source text in some language. The depth is taken as it is. -/
def analyzeTree (options : AnalysisOptions) (language source : String) (root : Tree.Node) :
    Analysis :=
  let entities := Outline.entities options root
  let relationships := Relationship.derive entities
  { entities, relationships
    imports := Outline.imports root
    exports := Outline.exports root
    metadata :=
      { language, lineCount := lineCount source, entityCount := entities.length
        relationshipCount := relationships.length } }

/-- Options whose depth is out of bounds are refused. -/
def AnalysisOptions.validate (options : AnalysisOptions) : Except AnalysisError Unit :=
  if options.depthAccepted then .ok ()
  else
    .error (.invalidOptions ("max_depth must be between " ++ toString minDepth ++ " and " ++
      toString depthLimit ++ ", got " ++ toString options.maxDepth))

/-- What reads trees from source texts. A language has to be loaded first, and a text may have no
tree. -/
structure TreeReader where
  load : Language → Except String Unit
  read? : Language → String → Option TypeScript.RawNode

def TreeReader.tree (reader : TreeReader) (language : Language) (source : String) :
    Except AnalysisError TypeScript.RawNode :=
  match reader.load language with
  | .error reason => .error (.language reason)
  | .ok () =>
    match reader.read? language source with
    | none => .error (.parse "parser produced no syntax tree" source)
    | some root => .ok root

/-- The analysis of a source text, by the nodes its tree stands for. -/
def analyzeWith (reader : TreeReader) (source : String) (language : Language)
    (options : AnalysisOptions) : Except AnalysisError Analysis := do
  options.validate
  let root ← reader.tree language source
  return analyzeTree options language.name source root.view

/-- Both languages are always there, and text that is not understood is left out of a tree. -/
def TypeScript.reader : TreeReader :=
  { load := fun _ => .ok (), read? := fun language source => some (rawTree language source) }

def analyze (source : String) (language : Language) (options : AnalysisOptions) :
    Except AnalysisError Analysis :=
  analyzeWith TypeScript.reader source language options

def encode (analysis : Analysis) (options : EncodeOptions) :
    Except GenerationError EncodedDiagram :=
  Catalogue.standard.encode analysis options

/-- The diagram of a source text, with all that an analysis reports by default. -/
def generate (source : String) (options : EncodeOptions) : Except PipelineError EncodedDiagram :=
  match analyze source .typescript {} with
  | .error error => .error (.analysis error)
  | .ok analysis =>
    match encode analysis options with
    | .error error => .error (.generation error)
    | .ok diagram => .ok diagram

end SourceAtlas
