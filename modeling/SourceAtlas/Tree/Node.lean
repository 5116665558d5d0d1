import SourceAtlas.Model.Modifier
import SourceAtlas.Position

/-!
Syntax trees.

A node has a kind from a closed list, the text it covers, the position where it starts, children in
source order, and some nodes under the name of a field. A tree read from a source text has its
field nodes among the children, but nothing here depends on that. `mark` tells nodes apart: it is
the row of the table or the number of characters left in the text from which the node was made.
-/

namespace SourceAtlas.Tree

inductive Kind where
  | classDecl
  | interfaceDecl
  | functionDecl
  | enumDecl
  | property
  | method
  | requiredParameter
  | optionalParameter
  /-- A member of an enumeration with an initial value. -/
  | enumMember
  /-- The name of a member, which alone is also a member of an enumeration. -/
  | propertyName
  | privateName
  | pattern
  | typeName
  | identifier
  | stringLiteral
  | modifier (modifier : Modifier)
  | importDecl
  | importSpecifier
  | exportDecl
  | exportSpecifier
  | declarator
  | error
  | other
  deriving DecidableEq, Repr

inductive Field where
  | name
  | body
  | parameters
  | ascription
  | resultAscription
  | extending
  | implementing
  | value
  | aliasName
  | source
  | declaration
  deriving DecidableEq, Repr

structure Node where
  mark : Nat
  kind : Kind
  text : String
  position : Position
  fields : List (Field × Node)
  children : List Node

namespace Node

/-- The node under a field: the first one, should a field be given twice. -/
def field? (node : Node) (field : Field) : Option Node :=
  (node.fields.find? fun entry => entry.1 == field).map (·.2)

def fieldText? (node : Node) (field : Field) : Option String :=
  (node.field? field).map (·.text)

mutual

/-- The number of nodes of a tree, a shared child counted each time. -/
def weight : Node → Nat
  | ⟨_, _, _, _, _, children⟩ => 1 + weights children

def weights : List Node → Nat
  | [] => 0
  | node :: rest => node.weight + weights rest

end

theorem weight_eq (node : Node) : node.weight = 1 + weights node.children := by
  cases node
  rw [weight]

theorem weights_append (left right : List Node) :
    weights (left ++ right) = weights left + weights right := by
  induction left with
  | nil => simp [weights]
  | cons node rest ih => simp [weights, ih, Nat.add_assoc]

end Node

end SourceAtlas.Tree
