import SourceAtlas.Model.Modifier
import SourceAtlas.Position
import SourceAtlas.Text.Line

/-!
What a source text declares: entities and their members.
-/

namespace SourceAtlas

/-- A field of a class or interface, or a member of an enumeration. -/
structure Property where
  name : String
  type : String
  visibility : Visibility := .pub
  isStatic : Bool := false
  isReadonly : Bool := false
  deriving DecidableEq, Repr

structure Parameter where
  name : String
  type : String
  optional : Bool := false
  defaultValue : Option String := none
  deriving DecidableEq, Repr

/-- The type written for a function that declares no result. -/
def voidType : String := "void"

/-- The type written where none is declared. -/
def anyType : String := "any"

/-- The type of every member of an enumeration. -/
def enumMemberType : String := "string | number"

-- The name of a parameter that is taken apart where it is declared.
def destructuredName : String := "destructured"

structure Method where
  name : String
  parameters : List Parameter := []
  returnType : String := voidType
  visibility : Visibility := .pub
  isStatic : Bool := false
  isAbstract : Bool := false
  deriving DecidableEq, Repr

inductive EntityKind where
  | objectClass
  | interface
  | function
  | binding
  | enumeration
  deriving DecidableEq, Repr

namespace EntityKind

def all : List EntityKind := [.objectClass, .interface, .function, .binding, .enumeration]

def name : EntityKind → String
  | .objectClass => "class"
  | .interface => "interface"
  | .function => "function"
  | .binding => "variable"
  | .enumeration => "enum"

def ofName? (name : String) : Option EntityKind :=
  all.find? fun kind => kind.name == name

/-- Classes and interfaces are the entities a class diagram draws as blocks. -/
def isClassifier : EntityKind → Bool
  | .objectClass => true
  | .interface => true
  | .function => false
  | .binding => false
  | .enumeration => false

end EntityKind

structure Entity where
  kind : EntityKind
  name : String
  properties : List Property := []
  methods : List Method := []
  position : Position := Position.origin
  modifiers : Modifiers := Modifiers.empty
  bases : List String := []
  interfaces : List String := []
  deriving DecidableEq, Repr

namespace Entity

/-- An entity without members. The empty name is replaced. -/
def named (kind : EntityKind) (name : String) : Entity :=
  { kind, name := if name.isEmpty then Text.unknownName else name }

def isAbstract (entity : Entity) : Bool :=
  entity.modifiers.contains .abstract

def located (entity : Entity) (position : Position) : Entity :=
  { entity with position }

def withModifier (entity : Entity) (modifier : Modifier) : Entity :=
  { entity with modifiers := entity.modifiers.insert modifier }

def withProperty (entity : Entity) (property : Property) : Entity :=
  { entity with properties := entity.properties ++ [property] }

def withMethod (entity : Entity) (method : Method) : Entity :=
  { entity with methods := entity.methods ++ [method] }

def extending (entity : Entity) (base : String) : Entity :=
  { entity with bases := entity.bases ++ [base] }

def implementing (entity : Entity) (interface : String) : Entity :=
  { entity with interfaces := entity.interfaces ++ [interface] }

end Entity

end SourceAtlas
