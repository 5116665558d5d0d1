import SourceAtlas.TypeScript.Phrase

/-!
Signatures: type parameters, parameters, annotations, and the decorators in front of them.
-/

open SourceAtlas.TypeScript.Parser

namespace SourceAtlas.TypeScript

def typeArguments (grammar : Grammar) : Parser RawNode := do
  let start ← here
  let _ ← mark "<"
  let types ← sepBy1 (grammar .type) (mark ",")
  let _ ← optional (mark ",")
  let _ ← mark ">"
  return groupNode start types

/-- A word in front of another word in a type parameter, such as `const` or `in`. -/
def variance : Parser Token := do
  let second ← peekSecond
  if second.sort == .word && second.text != "extends" then
    takeIf fun token => token.sort == .word
  else failure

def typeParameter (grammar : Grammar) : Parser RawNode := do
  let start ← here
  let _ ← many variance
  let _ ← takeIf fun token => token.sort == .word
  let bound ← optional (word "extends" *> grammar .type)
  let fallback ← optional (mark "=" *> grammar .type)
  return groupNode start (bound.toList ++ fallback.toList)

def typeParameters (grammar : Grammar) : Parser RawNode := do
  let start ← here
  let _ ← mark "<"
  let parameters ← sepBy1 (typeParameter grammar) (mark ",")
  let _ ← optional (mark ",")
  let _ ← mark ">"
  return groupNode start parameters

-- An annotation covers its colon and its type.
def ascription (grammar : Grammar) : Parser RawNode := do
  let start ← here
  let _ ← mark ":"
  let type ← grammar .type
  coveringNode start "type_annotation" [type]

/-- A decorator is a name with points, perhaps called once, or any expression in parentheses. -/
def decorator (grammar : Grammar) : Parser RawNode := do
  let start ← here
  let _ ← mark "@"
  let inParentheses : Parser (List RawNode) := do
    let _ ← mark "("
    let inside ← grammar.expression
    let _ ← mark ")"
    return [inside]
  let called : Parser (List RawNode) := do
    let _ ← takeIf fun token => token.sort == .word
    let _ ← many (mark "." *> takeIf Token.isMemberName)
    let types ← optional (typeArguments grammar)
    let arguments ← optional grammar.arguments
    return types.toList ++ arguments.getD []
  let inside ← inParentheses <|> called
  return groupNode start inside

/-- A word that stands where modifiers do. The three for access have a node around them. -/
def modifierNode (token : Token) : RawNode :=
  if token.isAnyWord ["public", "private", "protected"] then
    { token.node "accessibility_modifier" with children := [token.plain] }
  else token.plain

def startsBinding (token : Token) : Bool :=
  token.sort == .word || token.isAnyMark ["\x7b", "["]

def parameterModifier : Parser RawNode := do
  let second ← peekSecond
  let token ← peek
  if token.isAnyWord ["public", "private", "protected", "override", "readonly"]
      && startsBinding second then
    return modifierNode (← take)
  else failure

def binding (grammar : Grammar) : Parser RawNode := do
  let token ← peek
  if token.sort == .word then return (← take).node "identifier"
  else
    let inside ← grammar .literal
    coveringNode token.start
      (if token.isMarkOf "[" then "array_pattern" else "object_pattern") [inside]

def restBinding (grammar : Grammar) : Parser RawNode := do
  let start ← here
  if ← accepts (mark "...") then
    let inside ← binding grammar
    coveringNode start "rest_pattern" [inside]
  else binding grammar

def parameter (grammar : Grammar) : Parser RawNode := do
  let start ← here
  let decorators ← many (decorator grammar)
  let modifiers ← many parameterModifier
  let name ← restBinding grammar
  let isOptional ← accepts (mark "?")
  let type ← optional (ascription grammar)
  let value ← optional grammar.initial
  return nodeWith start (if isOptional then "optional_parameter" else "required_parameter")
    (decorators ++ modifiers ++ [name.under "pattern"] ++ part "type" type ++ part "value" value)

def parameters (grammar : Grammar) : Parser RawNode := do
  let start ← here
  let _ ← mark "("
  let list ← commaList (parameter grammar)
  let _ ← mark ")"
  return nodeWith start "formal_parameters" list

structure Signature where
  types : Option RawNode
  parameters : RawNode
  result : Option RawNode

def Signature.nodes (signature : Signature) : List RawNode :=
  part "type_parameters" signature.types ++ [signature.parameters.under "parameters"] ++
    part "return_type" signature.result

def signature (grammar : Grammar) : Parser Signature := do
  let types ← optional (typeParameters grammar)
  let list ← parameters grammar
  let result ← optional (ascription grammar)
  return { types, parameters := list, result }

end SourceAtlas.TypeScript
