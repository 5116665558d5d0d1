import SourceAtlas.Analyze
import SourceAtlas.CommandLine.Arguments
import SourceAtlas.CommandLine.Files
import SourceAtlas.Json.Model

/-!
Running a command.

The program is written against a `Host`, which reads and writes for it in any monad: the operating
system does so for the executable, and a `World` does so for statements about the program. Nothing
is written before everything else that can fail has succeeded. Writing a file can still fail, before
the file has been opened or after.
-/

namespace SourceAtlas.CommandLine

structure Host (Effect : Type → Type) where
  /-- What stands for a file that has been opened for writing. -/
  Handle : Type
  readFile : String → Effect (Except FileError ByteArray)
  /-- Open a file for writing. What it held before is lost. -/
  createFile : String → Effect (Except FileError Handle)
  writeFile : Handle → String → Effect (Except FileError Unit)
  readInput : Effect ByteArray
  print : String → Effect Unit
  warn : String → Effect Unit
  environment? : String → Effect (Option String)
  /-- Milliseconds since some moment. -/
  clock : Effect Nat

inductive Failure where
  | unreadable (path : String) (error : FileError)
  | unreadableInput
  | unwritable (path : String) (error : FileError)
  | analysis (language : Language) (error : AnalysisError)
  | generation (type : DiagramType) (error : GenerationError)

def Failure.message : Failure → String
  | .unreadable path error => "Failed to read input file '" ++ path ++ "': " ++ error.message
  | .unreadableInput => FileError.notText.message
  | .unwritable path error => "Failed to write output file '" ++ path ++ "': " ++ error.message
  | .analysis language error =>
    "Failed to analyze " ++ language.name ++ " source: " ++ error.message
  | .generation type error => "Failed to generate " ++ type.name ++ " diagram: " ++ error.message

namespace SourceArguments

def options (source : SourceArguments) : AnalysisOptions :=
  { includePrivate := !source.excludePrivate, maxDepth := source.maxDepth }

/-- The language that was asked for, or else the one the input's name suggests. -/
def sourceLanguage (source : SourceArguments) : Language :=
  (source.language.or (source.input.bind Path.language?)).getD .typescript

end SourceArguments

def namedFile? (path : Option String) : Option String :=
  path.filter (· != "-")

def analyzeSource (source : SourceArguments) (content : String) : Except Failure Analysis :=
  (analyze content source.sourceLanguage source.options).mapError
    (.analysis source.sourceLanguage)

def analysisText (pretty : Bool) (analysis : Analysis) (elapsedMs : Nat) : String :=
  let timed := { analysis with metadata := { analysis.metadata with elapsedMs } }
  timed.toJson.render (if pretty then .pretty else .compact)

def generateText (source : SourceArguments) (options : EncodeOptions) (content : String) :
    Except Failure String := do
  let analysis ← analyzeSource source content
  let diagram ← (encode analysis options).mapError (.generation options.diagramType)
  return diagram.text

/-- Texts of a table are filled up to one width. -/
def padded (width : Nat) (text : String) : String :=
  text ++ String.ofList (List.replicate (width - text.length) ' ')

def typeLine (type : DiagramType) : String :=
  let status := if Catalogue.standard.has type then "supported" else "no encoder"
  "  " ++ padded 10 type.name ++ " - Mermaid " ++ type.keyword ++ " (" ++ status ++ ")\n"

def typeJson (type : DiagramType) : Json :=
  .object
    [("keyword", .string type.keyword), ("name", .string type.name),
      ("supported", .bool (Catalogue.standard.has type))]

def typesText (json : Bool) : String :=
  let count := Catalogue.standard.supported.length
  if json then
    (Json.object [("supported", .ofNat count), ("types", .array (DiagramType.all.map typeJson))]).render
      .pretty
  else
    "Diagram types:\n" ++ String.join (DiagramType.all.map typeLine) ++ "\nTotal: " ++
      toString count ++ " diagram types supported\n"

/-- Text for standard output ends in a line feed, unless it is empty. -/
def closed (text : String) : String :=
  if text.isEmpty || text.toList.getLast? == some '\n' then text else text ++ "\n"

variable {Effect : Type → Type} [Monad Effect]

def readSource (host : Host Effect) (input : Option String) : Effect (Except Failure String) := do
  match namedFile? input with
  | some path =>
    match ← host.readFile path with
    | .error error => return .error (.unreadable path error)
    | .ok bytes =>
      match String.fromUTF8? bytes with
      | some content => return .ok content
      | none => return .error (.unreadable path .notText)
  | none =>
    match String.fromUTF8? (← host.readInput) with
    | some content => return .ok content
    | none => return .error .unreadableInput

def writeText (host : Host Effect) (output : Option String) (text : String) :
    Effect (Except Failure Unit) := do
  match namedFile? output with
  | some path =>
    match ← host.createFile path with
    | .error error => return .error (.unwritable path error)
    | .ok handle =>
      match ← host.writeFile handle text with
      | .error error => return .error (.unwritable path error)
      | .ok () => return .ok ()
  | none =>
    host.print (closed text)
    return .ok ()

def remark (host : Host Effect) (verbose : Bool) (text : String) : Effect Unit :=
  if verbose then host.warn (text ++ "\n") else pure ()

/-- Read the source, make something of it, and write that. -/
def process (host : Host Effect) (verbose : Bool) (input output : Option String)
    (make : String → Effect (Except Failure String)) (note : Option String) :
    Effect (Except Failure Unit) := do
  match ← readSource host input with
  | .error failure => return .error failure
  | .ok content =>
    remark host verbose ("Read " ++ toString content.utf8ByteSize ++ " bytes of input")
    match ← make content with
    | .error failure => return .error failure
    | .ok text =>
      match note with
      | some note => remark host verbose note
      | none => pure ()
      writeText host output text

def runCommand (host : Host Effect) (verbose : Bool) : Command → Effect (Except Failure Unit)
  | .analyze source output pretty =>
    let make (content : String) : Effect (Except Failure String) := do
      let started ← host.clock
      match analyzeSource source content with
      | .error failure => return .error failure
      | .ok analysis =>
        let finished ← host.clock
        return .ok (analysisText pretty analysis (finished - started))
    process host verbose source.input output make none
  | .generate source output options =>
    let make (content : String) : Effect (Except Failure String) :=
      return generateText source options content
    process host verbose source.input output make
      (some ("Generated " ++ options.diagramType.name ++ " diagram"))
  | .types json => do
    remark host verbose "Listing diagram types"
    writeText host none (typesText json)

def programVersion : String := "0.1.0"

def logFormatVariable : String := "CLASSGRAPH_LOG_FORMAT"

def logWarning? (format : String) : Option String :=
  match LogFormat.parse? format with
  | some _ => none
  | none =>
    some ("Warning: Failed to initialize logging: Invalid log format: " ++
      (NameError.logFormat format).message ++ "\n")

def runInvocation (host : Host Effect) (invocation : Invocation) : Effect Nat := do
  let format := (← host.environment? logFormatVariable).getD invocation.logFormat.name
  match logWarning? format with
  | some warning => host.warn warning
  | none => pure ()
  remark host invocation.verbose ("Classgraph v" ++ programVersion)
  match ← runCommand host invocation.verbose invocation.command with
  | .ok () => return 0
  | .error failure =>
    host.warn ("Error: " ++ failure.message ++ "\n")
    return 1

def usage : String :=
  "Usage: classgraph [OPTIONS] <COMMAND>\n\nCommands: analyze, generate, types, help\n"

/-- Run the program on the words of its command line. The result is the exit code. -/
def run (host : Host Effect) (words : List String) : Effect Nat := do
  match request? words with
  | none =>
    host.warn usage
    return 2
  | some .help =>
    host.print usage
    return 0
  | some .version =>
    host.print ("classgraph " ++ programVersion ++ "\n")
    return 0
  | some (.run invocation) => runInvocation host invocation

end SourceAtlas.CommandLine
