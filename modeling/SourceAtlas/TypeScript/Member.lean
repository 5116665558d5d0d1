import SourceAtlas.TypeScript.Signature

/-!
Members of classes, interfaces and object types.

Words such as `static` or `get` are modifiers only in front of a member's name on the same line:
otherwise they are the name themselves, because a line break ends the member.
-/

open SourceAtlas.TypeScript.Parser

namespace SourceAtlas.TypeScript

/-- The name of a member: a word, a private name, a literal, or an expression in brackets. -/
def memberName (grammar : Grammar) : Parser RawNode := do
  let token ← peek
  match token.sort with
  | .word => return (← take).node "property_identifier"
  | .privateName => return (← take).node "private_property_identifier"
  | .string => return (← take).node "string"
  | .number => return (← take).node "number"
  | _ =>
    let _ ← mark "["
    let inside ← grammar.sequence {}
    let _ ← mark "]"
    coveringNode token.start "computed_property_name" [inside]

def startsMemberName (token : Token) : Bool :=
  match token.sort with
  | .word => true
  | .privateName => true
  | .string => true
  | .number => true
  | .mark => token.text == "["
  | _ => false

-- Modifiers that are also good names, so that a line break makes them one.
def softModifiers : List String :=
  ["public", "private", "protected", "static", "override", "readonly", "declare", "async", "get",
    "set"]

def firmModifiers : List String :=
  ["abstract", "accessor"]

def memberModifier : Parser RawNode := do
  let token ← peek
  let second ← peekSecond
  let soft := token.isAnyWord softModifiers && startsMemberName second && !second.onNewLine
  let firm := token.isAnyWord firmModifiers && startsMemberName second
  let generator := token.isAnyWord (softModifiers ++ firmModifiers) && second.isMarkOf "*"
  if soft || firm || generator then return modifierNode (← take) else failure

def opensSignature : Parser Bool := do
  let token ← peek
  return token.isMarkOf "<" || (token.isMarkOf "(" && !token.onNewLine)

def methodNode (grammar : Grammar) (start : Cursor) (modifiers : List RawNode) (name : RawNode) :
    Parser RawNode := do
  let signature ← signature grammar
  let body ← optional grammar.block
  return nodeWith start (if body.isSome then "method_definition" else "method_signature")
    (modifiers ++ [name.under "name"] ++ signature.nodes ++ part "body" body)

def fieldNode (grammar : Grammar) (field : String) (start : Cursor) (modifiers : List RawNode)
    (name : RawNode) : Parser RawNode := do
  let type ← optional (ascription grammar)
  let value ← optional grammar.initial
  return nodeWith start field
    (modifiers ++ [name.under "name"] ++ part "type" type ++ part "value" value)

/-- A method, or a field, which is a node of the given type. -/
def namedMember (grammar : Grammar) (field : String) : Parser RawNode := do
  let start ← here
  let modifiers ← many memberModifier
  let _ ← optional (mark "*")
  let name ← memberName grammar
  let _ ← optional (mark "?" <|> mark "!")
  if ← opensSignature then methodNode grammar start modifiers name
  else fieldNode grammar field start modifiers name

def mappingSign : Parser (Option Token) :=
  optional (mark "+" <|> mark "-")

/-- The keys of an index signature, or the mapping of a mapped type. -/
def indexKeys (grammar : Grammar) : Parser (List RawNode) := do
  let _ ← takeIf fun token => token.sort == .word
  if ← accepts (mark ":") then
    return [← grammar .type]
  else
    let _ ← word "in"
    let keys ← grammar .type
    let renamed ← optional (word "as" *> grammar .type)
    return keys :: renamed.toList

def indexMember (grammar : Grammar) : Parser RawNode := do
  let start ← here
  let _ ← many memberModifier
  let _ ← mappingSign
  let _ ← optional (word "readonly")
  let _ ← mark "["
  let keys ← indexKeys grammar
  let _ ← mark "]"
  let _ ← mappingSign
  let _ ← optional (mark "?")
  let type ← optional (ascription grammar)
  return groupNode start (keys ++ type.toList)

/-- A signature without a name: of a call, or behind `new` of a construction. -/
def bareSignature (grammar : Grammar) : Parser RawNode := do
  let start ← here
  let _ ← optional (word "abstract")
  let _ ← optional (word "new")
  let signature ← signature grammar
  return groupNode start signature.nodes

def separator : Parser Token :=
  mark ";" <|> mark ","

def typeMember (grammar : Grammar) : Parser RawNode := do
  let _ ← many separator
  let member ← bareSignature grammar <|> indexMember grammar <|>
    namedMember grammar "property_signature"
  let _ ← many separator
  return member

end SourceAtlas.TypeScript
