import SourceAtlas.Tree.Node

/-!
Nodes as a grammar of TypeScript gives them, and the nodes of the closed list they stand for.

A raw node says what it is by the name of its type. Keywords and punctuation are nodes as well, but
not named ones. Which types count is said in `kind` and nowhere else, and which nodes stand under a
field in `fieldAmong?`: most under the label they have at their parent, but the clauses that name
supertypes by their type, and those of a class one level further down. So a whole tree is turned
into nodes of the closed list by a function that only puts the answers in place.
-/

open SourceAtlas.Tree

namespace SourceAtlas.TypeScript

structure RawNode where
  mark : Nat
  /-- The label under which the parent has the node. -/
  label : Option String
  type : String
  named : Bool
  text : String
  start : Point
  children : List RawNode

namespace RawNode

def under (node : RawNode) (label : String) : RawNode :=
  { node with label := some label }

/-- A word that may be a modifier. -/
def keyword (text : String) : Kind :=
  match Modifier.ofKeyword? text with
  | some modifier => .modifier modifier
  | none => .other

def kindOfType (type text : String) : Kind :=
  match type with
  | "class_declaration" | "abstract_class_declaration" | "class" => .classDecl
  | "interface_declaration" => .interfaceDecl
  | "function_declaration" | "generator_function_declaration" => .functionDecl
  | "enum_declaration" => .enumDecl
  | "public_field_definition" | "property_signature" => .property
  | "method_definition" | "method_signature" | "abstract_method_signature" => .method
  | "required_parameter" => .requiredParameter
  | "optional_parameter" => .optionalParameter
  | "enum_assignment" => .enumMember
  | "property_identifier" => .propertyName
  | "private_property_identifier" => .privateName
  | "object_pattern" | "array_pattern" => .pattern
  | "type_identifier" => .typeName
  | "identifier" => .identifier
  | "string" => .stringLiteral
  | "accessibility_modifier" => keyword text
  | "import_statement" => .importDecl
  | "import_specifier" => .importSpecifier
  | "export_statement" => .exportDecl
  | "export_specifier" => .exportSpecifier
  | "variable_declarator" => .declarator
  | "ERROR" => .error
  | _ => .other

def kind (node : RawNode) : Kind :=
  if node.named then kindOfType node.type node.text else keyword node.type

/-! Fields, looked up among nodes that are raw or come with a raw node each. -/

section Lookup

variable {Seen : Type} (raw : Seen → RawNode) (below : Seen → List Seen)

def labeled? (label : String) (nodes : List Seen) : Option Seen :=
  nodes.find? fun node => (raw node).label == some label

def ofType? (type : String) (nodes : List Seen) : Option Seen :=
  nodes.find? fun node => (raw node).type == type

/-- A clause that stands directly among the nodes, or else below the heritage of a class. -/
def heritage? (clause : String) (nodes : List Seen) : Option Seen :=
  (ofType? raw clause nodes).or
    ((ofType? raw "class_heritage" nodes).bind fun heritage => ofType? raw clause (below heritage))

def fieldAmong? (nodes : List Seen) : Field → Option Seen
  | .name => (labeled? raw "name" nodes).or (labeled? raw "pattern" nodes)
  | .body => labeled? raw "body" nodes
  | .parameters => labeled? raw "parameters" nodes
  | .ascription => labeled? raw "type" nodes
  | .resultAscription => labeled? raw "return_type" nodes
  | .extending =>
    (heritage? raw below "extends_clause" nodes).or
      (heritage? raw below "extends_type_clause" nodes)
  | .implementing => heritage? raw below "implements_clause" nodes
  | .value => labeled? raw "value" nodes
  | .aliasName => labeled? raw "alias" nodes
  | .source => labeled? raw "source" nodes
  | .declaration => labeled? raw "declaration" nodes

end Lookup

def field? (node : RawNode) (field : Field) : Option RawNode :=
  fieldAmong? id children node.children field

/-! The nodes that raw nodes stand for. -/

def allFields : List Field :=
  [.name, .body, .parameters, .ascription, .resultAscription, .extending, .implementing, .value,
    .aliasName, .source, .declaration]

/-- The node under a field, when the children have been turned into nodes. It is looked up among the
children and what they were made of, so that no node is made twice. -/
def fieldMade? (node : RawNode) (children : List Node) (field : Field) : Option Node :=
  (fieldAmong? Prod.fst (fun seen : RawNode × Node => seen.1.children.zip seen.2.children)
    (node.children.zip children) field).map (·.2)

/-- The node a raw node stands for, once its children have been turned into nodes. -/
def standFor (node : RawNode) (children : List Node) : Node :=
  { mark := node.mark, kind := node.kind, text := node.text, position := node.start.position
    fields := allFields.filterMap fun field => (node.fieldMade? children field).map (field, ·)
    children }

mutual

def view : RawNode → Node
  | ⟨mark, label, type, named, text, start, children⟩ =>
    standFor ⟨mark, label, type, named, text, start, children⟩ (views children)

def views : List RawNode → List Node
  | [] => []
  | node :: rest => node.view :: views rest

end

theorem views_map (nodes : List RawNode) : views nodes = nodes.map view := by
  induction nodes with
  | nil => rfl
  | cons node rest ih => rw [views, ih, List.map_cons]

theorem view_eq (node : RawNode) : node.view = node.standFor (node.children.map view) := by
  cases node
  rw [view, views_map]

section View

variable (node : RawNode)

@[simp] theorem view_kind : node.view.kind = node.kind := by rw [view_eq]; rfl

@[simp] theorem view_text : node.view.text = node.text := by rw [view_eq]; rfl

@[simp] theorem view_position : node.view.position = node.start.position := by rw [view_eq]; rfl

@[simp] theorem view_children : node.view.children = node.children.map view := by
  rw [view_eq]
  rfl

/-- The label is not kept, because a node is looked up by it at its parent. -/
@[simp] theorem view_under (label : String) : (node.under label).view = node.view := by
  rw [view_eq, view_eq]
  rfl

end View

/-! What stands under a field of a node is what stands under it in the raw node. -/

section Fields

variable {Seen Made : Type} (raw : Seen → RawNode) (below : Seen → List Seen)
  (source : Made → RawNode) (inside : Made → List Made) (make : Seen → Made)
  (same : ∀ seen, source (make seen) = raw seen)

include same

theorem of_type_map (type : String) (nodes : List Seen) :
    ofType? source type (nodes.map make) = (ofType? raw type nodes).map make := by
  simp [ofType?, List.find?_map, Function.comp_def, same]

theorem labeled_map (label : String) (nodes : List Seen) :
    labeled? source label (nodes.map make) = (labeled? raw label nodes).map make := by
  simp [labeled?, List.find?_map, Function.comp_def, same]

variable (made : ∀ seen, inside (make seen) = (below seen).map make)

include made

theorem heritage_map (clause : String) (nodes : List Seen) :
    heritage? source inside clause (nodes.map make) =
      (heritage? raw below clause nodes).map make := by
  have direct := of_type_map raw source make same
  rw [heritage?, heritage?, direct, direct, Option.map_or, Option.map_bind, Option.bind_map]
  simp only [Function.comp_def, made, direct]

theorem field_among_map (nodes : List Seen) (field : Field) :
    fieldAmong? source inside (nodes.map make) field =
      (fieldAmong? raw below nodes field).map make := by
  have labels := labeled_map raw source make same
  have clauses := heritage_map raw below source inside make same made
  cases field <;> simp only [fieldAmong?, labels, clauses, Option.map_or]

end Fields

theorem tagged_field (under? : Field → Option Node) (field : Field) (fields : List Field) :
    ((fields.filterMap fun other => (under? other).map (other, ·)).find?
      fun entry => entry.1 == field).map (·.2) =
        if field ∈ fields then under? field else none := by
  let tagged (other : Field) : Option (Field × Node) := (under? other).map (other, ·)
  change ((fields.filterMap tagged).find? _).map _ = _
  induction fields with
  | nil => rfl
  | cons other rest ih =>
      cases found : under? other with
      | none =>
          have skipped : tagged other = none := by simp [tagged, found]
          rw [List.filterMap_cons_none skipped, ih]
          by_cases same : field = other
          · simp [same, found]
          · simp [same]
      | some node =>
          have kept : tagged other = some (other, node) := by simp [tagged, found]
          rw [List.filterMap_cons_some kept]
          by_cases same : field = other
          · simp [same, found]
          · have apart : ¬other = field := fun equal => same equal.symm
            rw [List.find?_cons_of_neg (by simpa using apart), ih]
            simp [same]

theorem all_fields (field : Field) : field ∈ allFields := by
  cases field <;> simp [allFields]

theorem field_made (node : RawNode) (field : Field) :
    node.fieldMade? (node.children.map view) field = (node.field? field).map view := by
  let make (child : RawNode) : RawNode × Node := (child, child.view)
  have zipped (nodes : List RawNode) : nodes.zip (nodes.map view) = nodes.map make := by
    induction nodes with
    | nil => rfl
    | cons node rest ih => rw [List.map_cons, List.zip_cons_cons, ih, List.map_cons]
  have found := field_among_map id children Prod.fst
    (fun seen : RawNode × Node => seen.1.children.zip seen.2.children) make (fun _ => rfl)
    (fun child => by simp [make, zipped]) node.children field
  rw [fieldMade?, zipped, found, Option.map_map]
  rfl

@[simp] theorem view_field (node : RawNode) (field : Field) :
    node.view.field? field = (node.field? field).map view := by
  rw [view_eq, Node.field?, standFor]
  simp only [tagged_field, all_fields, if_true, field_made]

end RawNode

end SourceAtlas.TypeScript
