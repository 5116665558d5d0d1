import SourceAtlas.Model.Entity
import SourceAtlas.Options
import SourceAtlas.Tree.Walk

/-!
Members of declarations: what one node of a body says about a property, a method or a parameter.

A tree may be partial. A missing name becomes `Unknown`, a missing type `any`, and a missing
result `void`, so every node gives a member.
-/

open SourceAtlas.Tree

namespace SourceAtlas.Outline

def nameOf (node : Node) : String :=
  match node.fieldText? .name with
  | none => Text.unknownName
  | some text =>
    let name := Text.trim text
    if name.isEmpty then Text.unknownName else name

def dropColon : List Char → List Char
  | ':' :: rest => rest
  | chars => chars

/-- The type in an annotation, which may be written with its colon. -/
def ascribedType (text : String) : String :=
  let type := Text.trim (String.ofList (dropColon (Text.trim text).toList))
  if type.isEmpty then anyType else type

/-- The type under a field, or what stands for a missing one. -/
def typeUnder (node : Node) (field : Field) (missing : String) : String :=
  match node.fieldText? field with
  | none => missing
  | some text => ascribedType text

def modifier? (node : Node) : Option Modifier :=
  match node.kind with
  | .modifier modifier => some modifier
  | _ => none

-- Modifiers stand directly under the node they belong to.
def modifiersOf (node : Node) : Modifiers :=
  Modifiers.ofList (node.children.filterMap modifier?)

def hasPrivateName (node : Node) : Bool :=
  (node.field? .name).any fun name => name.kind == .privateName

-- A member with a private name is private whatever its modifiers say.
def visibilityOf (node : Node) : Visibility :=
  if hasPrivateName node then .priv else Visibility.ofModifiers (modifiersOf node)

def parameterName (node : Node) : String :=
  if (node.field? .name).any fun name => name.kind == .pattern then destructuredName
  else nameOf node

def parameter (node : Node) (optional : Bool) : Parameter :=
  { name := parameterName node, type := typeUnder node .ascription anyType, optional }

def parameter? (node : Node) : Option Parameter :=
  match node.kind with
  | .requiredParameter => some (parameter node false)
  | .optionalParameter => some (parameter node true)
  | _ => none

def parametersOf (node : Node) : List Parameter :=
  match node.field? .parameters with
  | none => []
  | some list => list.children.filterMap parameter?

def returnTypeOf (node : Node) : String :=
  typeUnder node .resultAscription voidType

def property (node : Node) : Property :=
  let modifiers := modifiersOf node
  { name := nameOf node
    type := typeUnder node .ascription anyType
    visibility := visibilityOf node
    isStatic := modifiers.contains .static
    isReadonly := modifiers.contains .readonly }

def method (node : Node) : Method :=
  let modifiers := modifiersOf node
  { name := nameOf node
    parameters := parametersOf node
    returnType := returnTypeOf node
    visibility := visibilityOf node
    isStatic := modifiers.contains .static
    isAbstract := modifiers.contains .abstract }

/-- The members met so far, and whether the body itself is still to be visited. -/
structure Members where
  atBody : Bool := true
  properties : List Property := []
  methods : List Method := []

/-- The visit that collects members: it descends from the body and from nothing else, so static
blocks, initial values and nested declarations add nothing. -/
def visitMember (options : AnalysisOptions) : Visit Members := fun members node _ =>
  if members.atBody then (.descend, { members with atBody := false })
  else
    match node.kind with
    | .property =>
      let found := property node
      if options.includePrivate || found.visibility != .priv then
        (.skip, { members with properties := members.properties ++ [found] })
      else (.skip, members)
    | .method =>
      let found := method node
      if options.includePrivate || found.visibility != .priv then
        (.skip, { members with methods := members.methods ++ [found] })
      else (.skip, members)
    | _ => (.skip, members)

def membersOf (options : AnalysisOptions) (body : Node) : Members :=
  walk (visitMember options) {} body

end SourceAtlas.Outline
