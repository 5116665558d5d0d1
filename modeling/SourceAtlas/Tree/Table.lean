import SourceAtlas.Tree.Node

/-!
Trees given as tables.

A row names its children and field nodes by their numbers, which must be greater than its own, so
the rows describe a finite tree. A node may be named more than once.
-/

namespace SourceAtlas.Tree

structure Row where
  kind : Kind
  text : String
  position : Position
  fields : List (Field × Nat)
  children : List Nat

namespace Table

/-- Whether a row may name another one, in a table of some size. -/
def mayName (size row target : Nat) : Bool :=
  row < target && target < size

/-- The nodes of all rows from the first one given on, which has number `first`. -/
def nodes : Nat → List Row → List Node
  | _, [] => []
  | first, row :: rest =>
    let later := nodes (first + 1) rest
    let node? (target : Nat) : Option Node :=
      if first < target then later[target - (first + 1)]? else none
    { mark := first, kind := row.kind, text := row.text, position := row.position
      fields := row.fields.filterMap fun entry => (node? entry.2).map (entry.1, ·)
      children := row.children.filterMap node? } :: later

/-- The tree of a table, whose first row is the root. -/
def root? (rows : List Row) : Option Node :=
  (nodes 0 rows).head?

end Table

namespace Kind

/-- The name of a kind in a table. A modifier is named with its keyword. -/
def ofName? : String → Option Kind
  | "class" => some .classDecl
  | "interface" => some .interfaceDecl
  | "function" => some .functionDecl
  | "enum" => some .enumDecl
  | "property" => some .property
  | "method" => some .method
  | "required_parameter" => some .requiredParameter
  | "optional_parameter" => some .optionalParameter
  | "enum_member" => some .enumMember
  | "property_name" => some .propertyName
  | "private_name" => some .privateName
  | "pattern" => some .pattern
  | "type_identifier" => some .typeName
  | "identifier" => some .identifier
  | "string_literal" => some .stringLiteral
  | "import" => some .importDecl
  | "import_specifier" => some .importSpecifier
  | "export" => some .exportDecl
  | "export_specifier" => some .exportSpecifier
  | "variable_declarator" => some .declarator
  | "error" => some .error
  | "other" => some .other
  | name =>
    if "modifier:".isPrefixOf name then
      (Modifier.ofKeyword? (String.ofList (name.toList.drop "modifier:".length))).map .modifier
    else none

end Kind

namespace Field

def ofName? : String → Option Field
  | "name" => some .name
  | "body" => some .body
  | "parameters" => some .parameters
  | "type" => some .ascription
  | "return_type" => some .resultAscription
  | "extends" => some .extending
  | "implements" => some .implementing
  | "value" => some .value
  | "alias" => some .aliasName
  | "source" => some .source
  | "declaration" => some .declaration
  | _ => none

end Field

end SourceAtlas.Tree
