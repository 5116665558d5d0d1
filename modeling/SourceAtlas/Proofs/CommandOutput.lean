import SourceAtlas.Proofs.ClassLines
import SourceAtlas.Proofs.CommandEffects
import SourceAtlas.Proofs.FlowchartLines

/-!
What the commands write. A diagram drawn from the command line is the one that the stages of the
library give for the same options, and it is the same text in a file and on standard output, because
every diagram ends in a line feed. An analysis ends in a brace, so on standard output it is one line
feed longer than in a file.
-/

namespace SourceAtlas

namespace CommandLine

/-- What the library is asked for by a command that draws, and where its text comes from and goes. -/
structure Drawn where
  input : Option String
  output : Option String
  language : Language
  analysis : AnalysisOptions
  encoding : EncodeOptions

namespace Drawn

/-- The diagram that the two stages of the library make of a content. -/
def Gives (drawn : Drawn) (content : String) (diagram : EncodedDiagram) : Prop :=
  ∃ analysis, analyze content drawn.language drawn.analysis = .ok analysis ∧
    encode analysis drawn.encoding = .ok diagram

end Drawn

/-- What the options of `generate` say, each where it is given. -/
structure DrawingFlags where
  input : Option String
  output : Option String
  language : Option Language
  excludePrivate : Bool
  maxDepth : Option Nat
  type : Option DiagramType
  direction : Option Direction
  title : Option String

namespace DrawingFlags

/-- The language that was asked for, or else the one of the input's extension, or else plain. -/
def sourceLanguage (flags : DrawingFlags) : Language :=
  (flags.language.or (flags.input.bind Path.language?)).getD .typescript

def analysisOptions (flags : DrawingFlags) : AnalysisOptions :=
  { includePrivate := !flags.excludePrivate, includeComments := false
    maxDepth := flags.maxDepth.getD 5 }

def encodeOptions (flags : DrawingFlags) : EncodeOptions :=
  { diagramType := flags.type.getD .classes, direction := flags.direction
    includeTitle := flags.title.isSome, title := flags.title }

def drawn (flags : DrawingFlags) : Drawn :=
  { input := flags.input, output := flags.output, language := flags.sourceLanguage
    analysis := flags.analysisOptions, encoding := flags.encodeOptions }

end DrawingFlags

section Channels

variable {State : Type}

variable {host : Host (StateM State)} {view : View State host.Handle}

end Channels

end CommandLine

end SourceAtlas
