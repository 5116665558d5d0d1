import SourceAtlas.Diagram.Options
import SourceAtlas.Model.Analysis
import SourceAtlas.Text.Excerpt

/-!
What can go wrong, and the words for it.
-/

namespace SourceAtlas

inductive AnalysisError where
  | language (reason : String)
  | parse (reason : String) (source : String)
  | invalidOptions (reason : String)
  deriving DecidableEq, Repr

namespace AnalysisError

def code : AnalysisError → String
  | .language _ => "LANGUAGE_ERROR"
  | .parse _ _ => "PARSE_ERROR"
  | .invalidOptions _ => "INVALID_OPTIONS"

def reason : AnalysisError → String
  | .language reason => reason
  | .parse reason _ => reason
  | .invalidOptions reason => reason

def message (error : AnalysisError) : String :=
  "Analysis error [" ++ error.code ++ "]: " ++ error.reason

/-- The beginning of the source that was at fault, where it was the source. -/
def snippet : AnalysisError → String
  | .parse _ source => Text.excerpt source
  | _ => ""

end AnalysisError

inductive GenerationError where
  /-- No diagram of this type can be drawn; `supported` lists the types that can. -/
  | invalidDiagramType (requested : DiagramType) (supported : String)
  /-- The diagram could not be written down. -/
  | unwritten (code : String) (snapshot : Analysis)

namespace GenerationError

def code : GenerationError → String
  | .invalidDiagramType _ _ => "INVALID_DIAGRAM_TYPE"
  | .unwritten code _ => code

def message : GenerationError → String
  | .invalidDiagramType requested supported =>
    "Invalid diagram type: requested " ++ requested.name ++ ", supported " ++ supported
  | .unwritten code _ =>
    "Generation error [" ++ code ++ "]: an error occurred when formatting an argument"

end GenerationError

/-- A failure anywhere between a source text and its diagram. -/
inductive PipelineError where
  | analysis (error : AnalysisError)
  | generation (error : GenerationError)

namespace PipelineError

def code : PipelineError → String
  | .analysis error => error.code
  | .generation error => error.code

def message : PipelineError → String
  | .analysis error => error.message
  | .generation error => error.message

end PipelineError

inductive NameError where
  | direction (text : String)
  | diagramType (text : String)
  | language (text : String)
  | logFormat (text : String)
  deriving DecidableEq, Repr

def NameError.message : NameError → String
  | .direction text => "Unknown direction: " ++ text
  | .diagramType text => "Unknown diagram type: " ++ text
  | .language text => "Unsupported language: " ++ text
  | .logFormat text => "Unknown log format: " ++ text

end SourceAtlas
