import SourceAtlas.TypeScript.Literal

/-!
Classes, interfaces and enumerations.
-/

open SourceAtlas.TypeScript.Parser

namespace SourceAtlas.TypeScript

def namesType (token : Token) : Bool :=
  token.sort == .word && !(["extends", "implements"].contains token.text)

def endsBase : Parser Unit := do
  let token ← peek
  if token.isAnyMark ["\x7b", ","] || token.isWordOf "implements" then return () else failure

/-- A superclass that is a plain name, with its type arguments beside it. -/
def plainBase (grammar : Grammar) : Parser (List RawNode) := do
  let name ← takeIf Token.isName
  let types ← optional (typeArguments grammar)
  endsBase
  let type := if name.text == "undefined" then "undefined" else "identifier"
  return (name.node type).under "value" :: types.toList

def computedBase (grammar : Grammar) : Parser (List RawNode) := do
  let base ← grammar.expression
  let types ← optional (typeArguments grammar)
  return base :: types.toList

def baseClause (grammar : Grammar) : Parser RawNode := do
  let start ← word "extends"
  let bases ← sepBy1 (plainBase grammar <|> computedBase grammar) (mark ",")
  return nodeWith start.start "extends_clause" bases.flatten

/-- A clause that lists types: of the interfaces a class implements or an interface extends. -/
def typeClause (grammar : Grammar) (keyword type : String) : Parser RawNode := do
  let start ← word keyword
  let types ← sepBy1 (grammar .plainType) (mark ",")
  return nodeWith start.start type types

def staticBlock (grammar : Grammar) : Parser RawNode :=
  word "static" *> grammar.block

def classMember (grammar : Grammar) : Parser RawNode := do
  let member ← decorator grammar <|> staticBlock grammar <|> indexMember grammar <|>
    namedMember grammar "public_field_definition"
  let _ ← many separator
  return member

/-- The clauses of a class stand below one node. -/
def heritageNodes (start : Cursor) (clauses : List RawNode) : List RawNode :=
  if clauses.isEmpty then [] else [nodeWith start "class_heritage" clauses]

def separatorNode : Parser RawNode := do
  return (← separator).plain

/-- A class behind its decorators, which is a node of the given type unless it is abstract. -/
def classNode (grammar : Grammar) (type : String) (start : Cursor) (decorators : List RawNode) :
    Parser RawNode := do
  let abstraction ← optional (word "abstract")
  let _ ← word "class"
  let name ← optional (takeIf namesType)
  let types ← optional (typeParameters grammar)
  let heritage ← here
  let base ← optional (baseClause grammar)
  let interfaces ← optional (typeClause grammar "implements" "implements_clause")
  let body ← Grammar.body "class_body" (separatorNode <|> classMember grammar)
  return nodeWith start (if abstraction.isSome then "abstract_class_declaration" else type)
    (decorators ++ (abstraction.map Token.plain).toList ++
      part "name" (name.map (·.node "type_identifier")) ++ part "type_parameters" types ++
      heritageNodes heritage (base.toList ++ interfaces.toList) ++ [body.under "body"])

def decoratedClass (grammar : Grammar) (type : String) : Parser RawNode := do
  let start ← here
  let decorators ← many (decorator grammar)
  classNode grammar type start decorators

/-- A class among the operands of an expression. -/
def classExpression (grammar : Grammar) : Parser RawNode :=
  decoratedClass grammar "class"

def interfaceNode (grammar : Grammar) : Parser RawNode := do
  let start ← word "interface"
  let name ← takeIf namesType
  let types ← optional (typeParameters grammar)
  let base ← optional (typeClause grammar "extends" "extends_type_clause")
  let body ← Grammar.body "interface_body" (separatorNode <|> typeMember grammar)
  return nodeWith start.start "interface_declaration"
    ((name.node "type_identifier").under "name" :: part "type_parameters" types ++ base.toList ++
      [body.under "body"])

-- A member of an enumeration is its name alone, unless it has an initial value.
def enumMember (grammar : Grammar) : Parser RawNode := do
  let start ← here
  let name ← memberName grammar
  let value ← optional grammar.initial
  let _ ← optional (mark ",")
  match value with
  | none => return name
  | some value =>
    return nodeWith start "enum_assignment" [name.under "name", value.under "value"]

def enumNode (grammar : Grammar) : Parser RawNode := do
  let start ← here
  let _ ← optional (word "const")
  let _ ← word "enum"
  let name ← takeIf fun token => token.sort == .word
  let body ← Grammar.body "enum_body" (enumMember grammar)
  return nodeWith start "enum_declaration"
    [(name.node "identifier").under "name", body.under "body"]

end SourceAtlas.TypeScript
