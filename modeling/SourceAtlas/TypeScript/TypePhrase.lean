import SourceAtlas.TypeScript.Member
import SourceAtlas.TypeScript.Template

/-!
Types.

Only a type that is a plain name is reported as one. All other types are kept for the expressions
that can stand inside them.
-/

open SourceAtlas.TypeScript.Parser

namespace SourceAtlas.TypeScript

def builtinTypes : List String :=
  ["any", "number", "boolean", "string", "symbol", "object", "void", "unknown", "never", "null",
    "undefined", "true", "false", "this", "bigint"]

def startsType (token : Token) : Bool :=
  match token.sort with
  | .word => !operatorWords.contains token.text
  | .string => true
  | .number => true
  | .template => true
  | .mark => token.isAnyMark ["\x7b", "[", "(", "<", "-"]
  | _ => false

def qualified (grammar : Grammar) : Parser (List Token × Option RawNode) := do
  let path ← many (mark "." *> takeIf Token.isMemberName)
  let arguments ← optional (typeArguments grammar)
  return (path, arguments)

/-- A statement about a parameter, as the result of a function that checks it. -/
def assertion (grammar : Grammar) : Parser RawNode := do
  let start ← word "asserts"
  let _ ← takeIf fun token => token.sort == .word && !token.onNewLine && token.text != "is"
  let type ← optional (word "is" *> grammar .type)
  return groupNode start.start type.toList

def predicate (grammar : Grammar) : Parser RawNode := do
  let start ← takeIf fun token => token.sort == .word
  let _ ← takeIf fun token => token.isWordOf "is" && !token.onNewLine
  let type ← grammar .type
  return groupNode start.start [type]

def namedType (grammar : Grammar) : Parser RawNode := do
  let first ← takeIf fun token => token.sort == .word
  let (path, arguments) ← qualified grammar
  if path.isEmpty && arguments.isNone then
    return first.node
      (if builtinTypes.contains first.text then "predefined_type" else "type_identifier")
  else return nodeWith first.start "generic_type" arguments.toList

def importedType (grammar : Grammar) : Parser RawNode := do
  let start ← word "import"
  let arguments ← mark "(" *> commaList (grammar .type) <* mark ")"
  let (_, types) ← qualified grammar
  return groupNode start.start (arguments ++ types.toList)

def queriedType (grammar : Grammar) : Parser RawNode := do
  let start ← word "typeof"
  let inside ← importedType grammar <|> (do
    let _ ← takeIf fun token => token.sort == .word
    let (_, types) ← qualified grammar
    return groupNode start.start types.toList)
  return groupNode start.start [inside]

/-- A type to be found. Where conditions may follow, a bound in front of a question mark is the
condition's and not the type's. -/
def inferredType (grammar : Grammar) (conditional : Bool) : Parser RawNode := do
  let start ← word "infer"
  let _ ← takeIf fun token => token.sort == .word
  let bound ← optional do
    let bound ← word "extends" *> grammar .plainType
    if conditional && (← peek).isMarkOf "?" then failure else return bound
  return groupNode start.start bound.toList

def functionType (grammar : Grammar) : Parser RawNode := do
  let start ← here
  let _ ← optional (word "abstract")
  let _ ← optional (word "new")
  let types ← optional (typeParameters grammar)
  let list ← parameters grammar
  let _ ← mark "=>"
  let result ← grammar .type
  return groupNode start (types.toList ++ [list, result])

def enclosedType (grammar : Grammar) : Parser RawNode := do
  let start ← mark "("
  let type ← grammar .type
  let _ ← mark ")"
  return groupNode start.start [type]

def objectType (grammar : Grammar) : Parser RawNode := do
  let start ← mark "\x7b"
  let members ← many (typeMember grammar)
  let _ ← many separator
  let _ ← mark "\x7d"
  return groupNode start.start members

def placeName : Parser Token :=
  takeIf (fun token => token.sort == .word) <* optional (mark "?") <* mark ":"

def tupleMember (grammar : Grammar) : Parser RawNode := do
  let _ ← optional (mark "...")
  let _ ← optional placeName
  let _ ← optional (mark "...")
  let type ← grammar .type
  let _ ← optional (mark "?")
  return type

def tupleType (grammar : Grammar) : Parser RawNode := do
  let start ← mark "["
  let members ← commaList (tupleMember grammar)
  let _ ← mark "]"
  return groupNode start.start members

def literalType : Parser RawNode := do
  let start ← here
  let _ ← optional (mark "-")
  let _ ← takeIf fun token => token.sort == .string || token.sort == .number
  return groupNode start []

def primaryType (grammar : Grammar) (conditional : Bool) : Parser RawNode := do
  let token ← peek
  match token.sort with
  | .word =>
    match token.text with
    | "typeof" => queriedType grammar
    | "import" => importedType grammar
    | "infer" => inferredType grammar conditional <|> namedType grammar
    | "new" => functionType grammar
    | "abstract" => functionType grammar <|> namedType grammar
    | _ => assertion grammar <|> predicate grammar <|> namedType grammar
  | .template => template (grammar .type)
  | .mark =>
    match token.text with
    | "(" => functionType grammar <|> enclosedType grammar
    | "<" => functionType grammar
    | "\x7b" => objectType grammar
    | "[" => tupleType grammar
    | _ => literalType
  | _ => literalType

def typeOperator : Parser Token := do
  let second ← peekSecond
  if startsType second then
    takeIf fun token => token.isAnyWord ["keyof", "unique", "readonly"]
  else failure

/-- What stands behind a type: an empty pair of brackets or an index, on the same line. -/
def typeIndex (grammar : Grammar) : Parser RawNode := do
  let start ← takeIf fun token => token.isMarkOf "[" && !token.onNewLine
  let index ← optional (grammar .type)
  let _ ← mark "]"
  return groupNode start.start index.toList

def typeOperand (grammar : Grammar) (conditional : Bool) : Parser RawNode := do
  let start ← here
  let operators ← many typeOperator
  let type ← primaryType grammar conditional
  let indexes ← many (typeIndex grammar)
  if operators.isEmpty && indexes.isEmpty then return type
  else return groupNode start (type :: indexes)

/-- Types joined by bars and ampersands, with perhaps one more in front. -/
def plainType (grammar : Grammar) (conditional : Bool) : Parser RawNode := do
  let start ← here
  let leading ← optional (mark "|" <|> mark "&")
  let types ← sepBy1 (typeOperand grammar conditional) (mark "|" <|> mark "&")
  match leading, types with
  | none, [only] => return only
  | _, _ => return groupNode start types

def typeCondition (grammar : Grammar) : Parser (List RawNode) := do
  let _ ← word "extends"
  let bound ← grammar .plainType
  let _ ← mark "?"
  let yes ← grammar .type
  let _ ← mark ":"
  let no ← grammar .type
  return [bound, yes, no]

def type (grammar : Grammar) : Parser RawNode := do
  let start ← here
  let first ← plainType grammar true
  match ← optional (typeCondition grammar) with
  | none => return first
  | some parts => return groupNode start (first :: parts)

end SourceAtlas.TypeScript
