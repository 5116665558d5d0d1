import SourceAtlas.Outline.Member
import SourceAtlas.Text.Quote

/-!
Declarations: the entity that one node of a tree declares.
-/

open SourceAtlas.Tree

namespace SourceAtlas.Outline

/-- Name, position and modifiers, which every kind of declaration has. -/
def heading (kind : EntityKind) (node : Node) : Entity :=
  { Entity.named kind (nameOf node) with
    position := node.position
    modifiers := modifiersOf node }

def textsOf (accepted : Kind → Bool) (nodes : List Node) : List String :=
  (nodes.filter fun node => accepted node.kind).map (·.text)

def isTypeName (kind : Kind) : Bool :=
  kind == .typeName

def isPlainName (kind : Kind) : Bool :=
  kind == .identifier || kind == .typeName

/-- The plain names in a clause, or the clause itself where it is one. -/
def basesOf (clause : Node) : List String :=
  if isPlainName clause.kind then [clause.text] else textsOf isPlainName clause.children

def classifier (kind : EntityKind) (options : AnalysisOptions) (node : Node) : Entity :=
  let members := ((node.field? .body).map (membersOf options)).getD {}
  { heading kind node with
    bases := ((node.field? .extending).map basesOf).getD []
    interfaces :=
      ((node.field? .implementing).map fun clause => textsOf isTypeName clause.children).getD []
    properties := members.properties
    methods := members.methods }

-- A function is drawn with one method, which carries its signature.
def function (node : Node) : Entity :=
  let entity := heading .function node
  { entity with
    methods := [{ name := entity.name, parameters := parametersOf node,
                  returnType := returnTypeOf node }] }

/-- The name of an enumeration's member: a bare name, a literal, or either with an initial value. -/
def enumMemberName? (node : Node) : Option String :=
  match node.kind with
  | .propertyName => some node.text
  | .stringLiteral => some (Text.unquote node.text)
  | .enumMember => some (((node.fieldText? .name).map Text.unquote).getD Text.unknownName)
  | _ => none

def enumeration (node : Node) : Entity :=
  let names := ((node.field? .body).map fun body => body.children.filterMap enumMemberName?).getD []
  { heading .enumeration node with
    properties := names.map fun name => { name, type := enumMemberType } }

/-- The entity a node declares, for the four kinds of node that declare one. -/
def declaration? (options : AnalysisOptions) (node : Node) : Option Entity :=
  match node.kind with
  | .classDecl => some (classifier .objectClass options node)
  | .interfaceDecl => some (classifier .interface options node)
  | .functionDecl => some (function node)
  | .enumDecl => some (enumeration node)
  | _ => none

-- The variable a nameless class is bound to: `const X = class {}` names its class `X`.
def boundName? (declarator : Node) : Option String :=
  match declarator.field? .value, declarator.field? .name with
  | some value, some name =>
    if value.kind == .classDecl && (value.field? .name).isNone && name.kind == .identifier then
      some name.text
    else none
  | _, _ => none

end SourceAtlas.Outline
