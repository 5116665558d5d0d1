import SourceAtlas.Diagram.Options
import SourceAtlas.Error
import SourceAtlas.Language
import SourceAtlas.Options

/-!
The words of a command line and what they ask for.

Options of the program come before the command, options of the command after it. No option may be
given twice. A value may stand behind its option, or in the same word: `--option=value`, `-ovalue`.
A value in a word of its own does not start with a dash, unless it is a dash.
-/

namespace SourceAtlas.CommandLine

inductive LogFormat where
  | compact
  | pretty
  | json
  deriving DecidableEq, Repr

namespace LogFormat

def all : List LogFormat := [.compact, .pretty, .json]

def name : LogFormat → String
  | .compact => "compact"
  | .pretty => "pretty"
  | .json => "json"

def ofName? (name : String) : Option LogFormat :=
  all.find? fun format => format.name == name

def parse? (text : String) : Option LogFormat :=
  ofName? (Text.lowercase text)

end LogFormat

def logLevels : List String := ["trace", "debug", "info", "warn", "error"]

structure SourceArguments where
  input : Option String := none
  language : Option Language := none
  excludePrivate : Bool := false
  maxDepth : Nat := 5
  deriving DecidableEq, Repr

inductive Command where
  | analyze (source : SourceArguments) (output : Option String) (pretty : Bool)
  | generate (source : SourceArguments) (output : Option String) (options : EncodeOptions)
  | types (json : Bool)
  deriving DecidableEq, Repr

structure Invocation where
  verbose : Bool
  logFormat : LogFormat
  command : Command
  deriving DecidableEq, Repr

inductive Request where
  | run (invocation : Invocation)
  | version
  | help
  deriving DecidableEq, Repr

/-- An option has a long name, perhaps a short one, and perhaps a value. -/
structure OptionShape where
  long : String
  short : Option Char := none
  valued : Bool := true

/-- The options that were given, each with its value, which is empty where there is none. -/
abbrev Given := List (String × String)

def addOption? (given : Given) (name value : String) : Option Given :=
  if (given.lookup name).isSome then none else some ((name, value) :: given)

inductive Atom where
  | option (shape : OptionShape) (value : Option String)
  | unknown

/-- Short options may share a word. The first that has a value takes the rest of the word, without
an equals sign in front. -/
def shortAtoms (shapes : List OptionShape) : List Char → List Atom
  | [] => []
  | c :: rest =>
    match shapes.find? fun shape => shape.short == some c with
    | none => [.unknown]
    | some shape =>
      if shape.valued then
        match rest with
        | [] => [.option shape none]
        | '=' :: value => [.option shape (some (String.ofList value))]
        | value => [.option shape (some (String.ofList value))]
      else .option shape none :: shortAtoms shapes rest

def longAtom (shapes : List OptionShape) (chars : List Char) : Atom :=
  let name := chars.takeWhile (· != '=')
  match shapes.find? fun shape => shape.long == String.ofList name with
  | none => .unknown
  | some shape =>
    match chars.drop name.length with
    | [] => .option shape none
    | _ :: value => .option shape (some (String.ofList value))

/-- The options in a word, or nothing where the word is none. A dash alone is a plain word. -/
def atoms? (shapes : List OptionShape) (word : String) : Option (List Atom) :=
  match word.toList with
  | '-' :: '-' :: rest => some [longAtom shapes rest]
  | '-' :: c :: rest => some (shortAtoms shapes (c :: rest))
  | _ => none

inductive Reading where
  | done (given : Given)
  | stopped (given : Given) (word : String) (rest : List String)
  | help (given : Given)
  | version (given : Given)
  | misuse

/-- Take the options of one word. The last one may still want its value. -/
def takeAtoms : Given → List Atom → Except Reading (Given × Option String)
  | given, [] => .ok (given, none)
  | _, .unknown :: _ => .error .misuse
  | given, .option shape none :: rest =>
    if shape.valued then .ok (given, some shape.long)
    else if shape.long == "help" then .error (.help given)
    else if shape.long == "version" then .error (.version given)
    else
      match addOption? given shape.long "" with
      | none => .error .misuse
      | some more => takeAtoms more rest
  | given, .option shape (some value) :: rest =>
    if shape.valued then
      match addOption? given shape.long value with
      | none => .error .misuse
      | some more => takeAtoms more rest
    else .error .misuse

def isValue (word : String) : Bool :=
  word == "-" || word.toList.head? != some '-'

-- Read options up to the first word that is none. Two dashes end the options.
def readOptions (shapes : List OptionShape) : Given → List String → Reading
  | given, [] => .done given
  | given, word :: rest =>
    if word == "--" then if rest.isEmpty then .done given else .misuse
    else
      match atoms? shapes word with
      | none => .stopped given word rest
      | some atoms =>
        match takeAtoms given atoms with
        | .error reading => reading
        | .ok (more, none) => readOptions shapes more rest
        | .ok (more, some name) =>
          match rest with
          | [] => .misuse
          | value :: others =>
            if isValue value then
              match addOption? more name value with
              | none => .misuse
              | some most => readOptions shapes most others
            else .misuse

def helpShape : OptionShape := { long := "help", short := some 'h', valued := false }

def programShapes : List OptionShape :=
  [{ long := "verbose", short := some 'v', valued := false }, { long := "log-level" },
    { long := "log-format" }, { long := "version", short := some 'V', valued := false }, helpShape]

def sourceShapes : List OptionShape :=
  [{ long := "input", short := some 'i' }, { long := "language" },
    { long := "exclude-private", valued := false }, { long := "max-depth" },
    { long := "output", short := some 'o' }, helpShape]

def analyzeShapes : List OptionShape :=
  { long := "pretty", valued := false } :: sourceShapes

def generateShapes : List OptionShape :=
  [{ long := "type" }, { long := "direction" }, { long := "title" }] ++ sourceShapes

def typesShapes : List OptionShape :=
  [{ long := "json", valued := false }, helpShape]

/-- The value of an option that may be missing. A value that means nothing refuses everything. -/
def valueOf? {Value : Type} (given : Given) (name : String) (read? : String → Option Value) :
    Option (Option Value) :=
  match given.lookup name with
  | none => some none
  | some text => (read? text).map some

def isGiven (given : Given) (name : String) : Bool :=
  (given.lookup name).isSome

def path? (text : String) : Option String :=
  if text.isEmpty then none else some text

def language? : String → Option Language
  | "ts" => some .typescript
  | "typescript" => some .typescript
  | "tsx" => some .tsx
  | "jsx" => some .tsx
  | _ => none

def digits? (chars : List Char) : Option Nat :=
  if chars.isEmpty || !chars.all Char.isDigit then none
  else some (chars.foldl (fun value c => 10 * value + (c.toNat - 48)) 0)

-- A size is written in decimal digits, perhaps with a plus sign, and fits into 64 bits.
def size? (text : String) : Option Nat :=
  let digits := match text.toList with
    | '+' :: rest => rest
    | chars => chars
  (digits? digits).filter (· < UInt64.size)

def sourceArguments? (given : Given) : Option SourceArguments := do
  let input ← valueOf? given "input" path?
  let language ← valueOf? given "language" language?
  let maxDepth ← valueOf? given "max-depth" size?
  return { input, language, excludePrivate := isGiven given "exclude-private"
           maxDepth := maxDepth.getD 5 }

def analyzeCommand? (given : Given) : Option Command := do
  let source ← sourceArguments? given
  let output ← valueOf? given "output" path?
  return .analyze source output (isGiven given "pretty")

def generateCommand? (given : Given) : Option Command := do
  let source ← sourceArguments? given
  let output ← valueOf? given "output" path?
  let type ← valueOf? given "type" DiagramType.ofName?
  let direction ← valueOf? given "direction" Direction.parse?
  let options : EncodeOptions := { diagramType := type.getD .classes, direction }
  match given.lookup "title" with
  | none => return .generate source output options
  | some title => return .generate source output (options.withTitle title)

def typesCommand? (given : Given) : Option Command :=
  some (.types (isGiven given "json"))

/-- What follows the name of a command. A plain word there is one too many. -/
def commandRequest? (shapes : List OptionShape) (command? : Given → Option Command)
    (invoke : Command → Invocation) (words : List String) : Option Request :=
  match readOptions shapes [] words with
  | .done given => (command? given).map fun command => .run (invoke command)
  | .help given => (command? given).map fun _ => .help
  | _ => none

def commandNames : List String := ["analyze", "generate", "types", "help"]

/-- The request of a command line, or nothing where the program is misused. -/
def request? (words : List String) : Option Request :=
  let level? (text : String) : Option String := logLevels.find? (· == text)
  match readOptions programShapes [] words with
  | .stopped given name rest => do
    let _ ← valueOf? given "log-level" level?
    let logFormat ← valueOf? given "log-format" LogFormat.ofName?
    let invoke (command : Command) : Invocation :=
      { verbose := isGiven given "verbose", logFormat := logFormat.getD .compact, command }
    match name with
    | "analyze" => commandRequest? analyzeShapes analyzeCommand? invoke rest
    | "generate" => commandRequest? generateShapes generateCommand? invoke rest
    | "types" => commandRequest? typesShapes typesCommand? invoke rest
    | "help" => if rest.all commandNames.contains then some .help else none
    | _ => none
  | .help given => do
    let _ ← valueOf? given "log-level" level?
    let _ ← valueOf? given "log-format" LogFormat.ofName?
    return .help
  | .version given => do
    let _ ← valueOf? given "log-level" level?
    let _ ← valueOf? given "log-format" LogFormat.ofName?
    return .version
  | _ => none

end SourceAtlas.CommandLine
