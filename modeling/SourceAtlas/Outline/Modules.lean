import SourceAtlas.Model.Analysis
import SourceAtlas.Text.Quote
import SourceAtlas.Tree.Walk

/-!
What a source text takes from other modules and what it offers to them.
-/

open SourceAtlas.Tree

namespace SourceAtlas.Outline

def specifierName? (specifier : Node) : Option String :=
  ((specifier.fieldText? .aliasName).or (specifier.fieldText? .name)).map Text.unquoteTrimmed

structure ImportParts where
  module : Option String
  names : List String := []

def visitImportPart : Visit ImportParts := fun parts node _ =>
  match node.kind with
  | .importSpecifier =>
    (.skip, { parts with names := parts.names ++ (specifierName? node).toList })
  | .identifier => (.skip, { parts with names := parts.names ++ [node.text] })
  | .stringLiteral =>
    (.skip, { parts with module := parts.module.or (some (Text.unquoteTrimmed node.text)) })
  | _ => (.descend, parts)

/-- One import: where it names no source of its own, the first literal inside it is the source. -/
def importOf (node : Node) : Import :=
  let start : ImportParts := { module := (node.fieldText? .source).map Text.unquoteTrimmed }
  let parts := node.children.foldl (walk visitImportPart) start
  { module := parts.module.getD "", names := parts.names, position := node.position }

def visitImport : Visit (List Import) := fun imports node _ =>
  if node.kind == .importDecl then (.skip, imports ++ [importOf node]) else (.descend, imports)

def imports (root : Node) : List Import :=
  walk visitImport [] root

/-- The name of an exported value that has none. -/
def defaultExport : String := "default"

def visitDeclarator : Visit (List String) := fun names node _ =>
  if node.kind == .declarator then (.skip, names ++ (node.fieldText? .name).toList)
  else (.descend, names)

def visitSpecifier : Visit (List String) := fun names node _ =>
  if node.kind == .exportSpecifier then (.skip, names ++ (specifierName? node).toList)
  else (.descend, names)

/-- The names one export offers: its declaration's, its value's, or those in its clause. -/
def exportedNames (node : Node) : List String :=
  match node.field? .declaration, node.field? .value with
  | some declaration, _ =>
    match declaration.fieldText? .name with
    | some name => [name]
    | none => walk visitDeclarator [] declaration
  | none, some value => if value.kind == .identifier then [value.text] else [defaultExport]
  | none, none => walk visitSpecifier [] node

def visitExport : Visit (List String) := fun names node _ =>
  if node.kind == .exportDecl then (.skip, names ++ exportedNames node) else (.descend, names)

def exports (root : Node) : List String :=
  walk visitExport [] root

end SourceAtlas.Outline
