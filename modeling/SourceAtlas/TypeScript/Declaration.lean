import SourceAtlas.TypeScript.ClassPhrase

/-!
Declarations: everything that gives a name to something and can be exported.
-/

open SourceAtlas.TypeScript.Parser

namespace SourceAtlas.TypeScript

def endStatement : Parser Unit := do
  let _ ← optional (mark ";")

/-- A contextual keyword: a word in front of another token on the same line. -/
def keywordBefore (keyword : String) (next : Token → Bool) : Parser Token := do
  let second ← peekSecond
  if next second && !second.onNewLine then word keyword else failure

def isWord (token : Token) : Bool :=
  token.sort == .word

/-- A function with a body is a declaration of its own kind. Without one it only announces the
function's type. -/
def functionNode (grammar : Grammar) : Parser RawNode := do
  let start ← here
  let _ ← optional (keywordBefore "async" (·.isWordOf "function"))
  let _ ← word "function"
  let _ ← optional (mark "*")
  let name ← takeIf Token.isName
  let signature ← signature grammar
  let body ← optional grammar.block
  endStatement
  return nodeWith start (if body.isSome then "function_declaration" else "function_signature")
    ((name.node "identifier").under "name" :: signature.nodes ++ part "body" body)

def declarator (grammar : Grammar) (mode : ExpressionMode) : Parser RawNode := do
  let start ← here
  let name ← binding grammar
  let _ ← optional (mark "!")
  let type ← optional (ascription grammar)
  let value ← optional (mark "=" *> grammar (.expression mode))
  return nodeWith start "variable_declarator"
    (name.under "name" :: part "type" type ++ part "value" value)

def variableKeyword : Parser Token := do
  let second ← peekSecond
  if startsBinding second then takeIf (·.isAnyWord ["var", "let", "const"]) else failure

def variableList (grammar : Grammar) (mode : ExpressionMode) : Parser RawNode := do
  let keyword ← variableKeyword
  let declarators ← sepBy1 (declarator grammar mode) (mark ",")
  return nodeWith keyword.start "lexical_declaration" declarators

def typeAlias (grammar : Grammar) : Parser RawNode := do
  let start ← keywordBefore "type" isWord
  let name ← takeIf isWord
  let types ← optional (typeParameters grammar)
  let _ ← mark "="
  let type ← grammar .type
  endStatement
  return nodeWith start.start "type_alias_declaration"
    ((name.node "type_identifier").under "name" :: part "type_parameters" types ++
      [type.under "value"])

/-- A namespace or a module, whose name may have points or be a literal. -/
def moduleNode (grammar : Grammar) : Parser RawNode := do
  let names (token : Token) := token.sort == .word || token.sort == .string
  let start ← keywordBefore "namespace" isWord <|> keywordBefore "module" names
  let first ← here
  let _ ← takeIf names
  let _ ← many (mark "." *> takeIf isWord)
  let name ← coveringNode first "nested_identifier" []
  let body ← optional grammar.block
  endStatement
  return nodeWith start.start "module" (name.under "name" :: part "body" body)

/-- Another name for something inside a namespace. -/
def importAlias : Parser RawNode := do
  let start ← word "import"
  let _ ← optional (word "type" <* ahead (takeIf isWord))
  let _ ← takeIf isWord
  let _ ← mark "="
  let _ ← takeIf Token.isName
  let _ ← many (mark "." *> takeIf isWord)
  endStatement
  return nodeWith start.start "import_alias" []

def enumDeclaration (grammar : Grammar) : Parser RawNode := do
  let isEnum ← ahead (optional (word "const") *> word "enum")
  if isEnum then enumNode grammar else failure

def classDeclaration (grammar : Grammar) : Parser RawNode := do
  let node ← decoratedClass grammar "class_declaration"
  if (node.field? .name).isSome then return node else failure

def plainDeclaration (grammar : Grammar) : Parser RawNode :=
  classDeclaration grammar <|> interfaceNode grammar <|> enumDeclaration grammar <|>
    functionNode grammar <|> typeAlias grammar <|> moduleNode grammar <|>
    (variableList grammar {} <* endStatement) <|> importAlias

-- A declaration of something that exists elsewhere. It has no name of its own.
def ambient (grammar : Grammar) : Parser RawNode := do
  let start ← keywordBefore "declare" isWord
  let globally : Parser RawNode := word "global" *> grammar.block
  let inside ← globally <|> plainDeclaration grammar
  return nodeWith start.start "ambient_declaration" [inside]

def declaration (grammar : Grammar) : Parser RawNode :=
  ambient grammar <|> plainDeclaration grammar

end SourceAtlas.TypeScript
