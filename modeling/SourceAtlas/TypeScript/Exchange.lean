import SourceAtlas.TypeScript.Declaration

/-!
Imports and exports.
-/

open SourceAtlas.TypeScript.Parser

namespace SourceAtlas.TypeScript

def stringNode : Parser RawNode := do
  return (← takeIf fun token => token.sort == .string).node "string"

/-- The name of something on the other side, which may be any word or a literal. -/
def exchangedName : Parser RawNode := do
  let token ← takeIf fun token => token.sort == .word || token.sort == .string
  return token.node (if token.sort == .string then "string" else "identifier")

/-- The word `type` in front of the name it qualifies, and not as that name. -/
def typeQualifier : Parser Token := do
  let token ← word "type"
  let second ← peek
  let third ← peekSecond
  let names := second.sort == .word || second.sort == .string
  -- In `type as x` the name is `type`; in `type as as x` and in `type as` it is `as`.
  let isName := second.isWordOf "as" && third.sort == .word && !third.isWordOf "as"
  if names && !isName then return token else failure

/-- A name in a clause, perhaps with another one by which it is known here or elsewhere. -/
def specifier (type : String) : Parser RawNode := do
  let start ← here
  let _ ← optional typeQualifier
  let name ← exchangedName
  let other ← optional (word "as" *> exchangedName)
  return nodeWith start type (name.under "name" :: part "alias" other)

/-- A clause of specifiers, all of one type. -/
def clause (type specifierType : String) : Parser RawNode := do
  let start ← mark "\x7b"
  let specifiers ← commaList (specifier specifierType)
  let _ ← mark "\x7d"
  return nodeWith start.start type specifiers

def attributes (grammar : Grammar) : Parser RawNode := do
  let _ ← takeIf fun token => token.isAnyWord ["with", "assert"] && !token.onNewLine
  grammar .literal

def fromModule : Parser RawNode :=
  word "from" *> stringNode

def namespaceImport : Parser RawNode := do
  let start ← mark "*"
  let _ ← word "as"
  let name ← takeIf isWord
  return nodeWith start.start "namespace_import" [name.node "identifier"]

/-- What an import names: one value, all of them, or a list. -/
def importClause : Parser (List RawNode) := do
  let several : Parser RawNode := namespaceImport <|> clause "named_imports" "import_specifier"
  let single : Parser (List RawNode) := do
    let name ← takeIf isWord
    let rest ← optional (mark "," *> several)
    return name.node "identifier" :: rest.toList
  (do return [← several]) <|> single

def requireClause : Parser (List RawNode) := do
  let name ← takeIf isWord
  let _ ← mark "="
  let _ ← word "require"
  let _ ← mark "("
  let source ← stringNode
  let _ ← mark ")"
  return [name.node "identifier", source]

def importNode (grammar : Grammar) : Parser RawNode := do
  let start ← word "import"
  let named : Parser (List RawNode × Option RawNode) := do
    let names ← importClause
    let source ← fromModule
    return (names, some source)
  let required : Parser (List RawNode × Option RawNode) := do
    return (← requireClause, none)
  let bare : Parser (List RawNode × Option RawNode) := do
    return ([], some (← stringNode))
  let form := named <|> required <|> bare
  let (names, source) ← (word "type" *> form) <|> form
  let extra ← optional (attributes grammar)
  endStatement
  return nodeWith start.start "import_statement"
    (names ++ part "source" source ++ extra.toList)

structure ExportParts where
  declaration : Option RawNode := none
  value : Option RawNode := none
  source : Option RawNode := none
  others : List RawNode := []

def exportAll : Parser ExportParts := do
  let _ ← optional (word "type")
  let _ ← mark "*"
  let _ ← optional (word "as" *> exchangedName)
  return { source := some (← fromModule) }

def exportList : Parser ExportParts := do
  let _ ← optional (word "type")
  let names ← clause "export_clause" "export_specifier"
  let source ← optional fromModule
  return { source, others := [names] }

-- A declaration behind `default`. A class or function without a name is a value.
def exportDefault (grammar : Grammar) : Parser ExportParts := do
  let _ ← word "default"
  let declared : Parser ExportParts := do
    let node ← classDeclaration grammar <|> interfaceNode grammar <|> enumDeclaration grammar <|>
      functionNode grammar
    return { declaration := some node }
  let given : Parser ExportParts := do
    return { value := some (← grammar.expression) }
  declared <|> given

/-- A whole module that is one value, or is known everywhere under one name. -/
def exportWhole (grammar : Grammar) : Parser ExportParts := do
  let assigned : Parser ExportParts := do
    let value ← mark "=" *> grammar.expression
    return { others := [value] }
  let global : Parser ExportParts := do
    let _ ← word "as"
    let _ ← word "namespace"
    let _ ← takeIf isWord
    return {}
  assigned <|> global

def exportDeclared (grammar : Grammar) : Parser ExportParts := do
  return { declaration := some (← declaration grammar) }

-- Decorators may stand in front of the keyword, and then belong to the export.
def exportNode (grammar : Grammar) : Parser RawNode := do
  let start ← here
  let decorators ← many (decorator grammar)
  let _ ← word "export"
  let parts ← exportDefault grammar <|> exportAll <|> exportList <|> exportWhole grammar <|>
    exportDeclared grammar
  let extra ← optional (attributes grammar)
  endStatement
  return nodeWith start "export_statement"
    (decorators ++ part "declaration" parts.declaration ++ part "value" parts.value ++
      parts.others ++ part "source" parts.source ++ extra.toList)

end SourceAtlas.TypeScript
