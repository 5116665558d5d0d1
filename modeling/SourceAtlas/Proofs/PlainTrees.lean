import Mathlib.Data.List.Forall2
import SourceAtlas.Proofs.PlainSource
import SourceAtlas.Proofs.RawTrees

/-!
Trees of plain sources, as a grammar of TypeScript gives them.

This module says which raw trees picture declarations, and nothing in it depends on what reads them.
The nodes that matter are named ones. Keywords and marks may stand anywhere between them, or be left
out. The clauses of a class are gathered below one node, and those of an interface are not.
-/

open SourceAtlas.TypeScript

namespace SourceAtlas.Plain

theorem every_node {Item Made : Type} {Relates : Item → Made → Prop} {Satisfies : Made → Prop}
    (items : List Item) (nodes : List Made) (related : List.Forall₂ Relates items nodes)
    (each : ∀ item node, Relates item node → Satisfies node) :
    ∀ node ∈ nodes, Satisfies node := by
  induction related with
  | nil => simp
  | cons relates _ ih => exact List.forall_mem_cons.mpr ⟨each _ _ relates, ih⟩

/-- The keywords and marks that stand between the parts of a declaration. -/
def signs : List String :=
  ["class", "interface", "extends", "implements", "\x7b", "\x7d", ":", ";", ","]

structure Signifies (node : RawNode) : Prop where
  named : node.named = false
  label : node.label = none
  type : node.type ∈ signs
  leaf : node.children = []

instance (node : RawNode) : Decidable (Signifies node) :=
  decidable_of_iff
    (node.named = false ∧ node.label = none ∧ node.type ∈ signs ∧ node.children = [])
    ⟨fun ⟨named, label, type, leaf⟩ => ⟨named, label, type, leaf⟩,
      fun ⟨named, label, type, leaf⟩ => ⟨named, label, type, leaf⟩⟩

/-- A named node of a type, with these parts and signs between them. -/
structure Holds (type : String) (parts : List RawNode) (node : RawNode) : Prop where
  named : node.named = true
  type : node.type = type
  parts : node.children.filter (·.named) = parts
  between : ∀ child ∈ node.children, child.named = false → Signifies child

/-- A named node of a type that is one word, which may stand below it once more. -/
structure Spells (type text : String) (node : RawNode) : Prop where
  named : node.named = true
  type : node.type = type
  text : node.text = text
  tokens : ∀ child ∈ node.children, child.named = false ∧ child.children = []

/-! Fields. -/

/-- The words in front of a field. -/
def accessWords : Visibility → List String
  | .pub => []
  | .priv => ["private"]
  | .prot => ["protected"]

structure Grants (word : String) (node : RawNode) : Prop where
  spells : Spells "accessibility_modifier" word node
  label : node.label = none

structure Annotates (node : RawNode) : Prop where
  text : node.text = ": number"
  holds : ∃ number, Spells "predefined_type" "number" number ∧
    Holds "type_annotation" [number] node

def FieldTree (type : String) (field : Field) (node : RawNode) : Prop :=
  ∃ access name typing,
    List.Forall₂ Grants (accessWords field.visibility) access ∧
    Spells "property_identifier" field.name.text name ∧ Annotates typing ∧
    Holds type (access ++ [name.under "name", typing.under "type"]) node

/-! Clauses. -/

/-- The node of a clause for names, none where there are no names. -/
inductive ClauseTree (type itemType : String) : List TypeName → List RawNode → Prop where
  | absent : ClauseTree type itemType [] []
  | clause (names : List TypeName) (items : List RawNode) (node : RawNode) (filled : names ≠ [])
      (label : node.label = none) (holds : Holds type items node)
      (spelled : List.Forall₂ (fun name => Spells itemType name.text) names items) :
      ClauseTree type itemType names [node]

/-- The node that gathers the clauses of a class, none where there are no clauses. -/
inductive Gathers : List RawNode → List RawNode → Prop where
  | absent : Gathers [] []
  | heritage (clauses : List RawNode) (node : RawNode) (filled : clauses ≠ [])
      (label : node.label = none) (holds : Holds "class_heritage" clauses node) :
      Gathers clauses [node]

def HeritageTree : Declaration → List RawNode → Prop
  | .objectClass _ base interfaces _, heritage =>
    ∃ extended implemented, ClauseTree "extends_clause" "identifier" base.toList extended ∧
      ClauseTree "implements_clause" "type_identifier" interfaces implemented ∧
      Gathers (extended ++ implemented) heritage
  | .interface _ bases _, heritage =>
    ClauseTree "extends_type_clause" "type_identifier" bases heritage

/-! Declarations. -/

namespace Declaration

def treeType : Declaration → String
  | objectClass _ _ _ _ => "class_declaration"
  | interface _ _ _ => "interface_declaration"

def bodyType : Declaration → String
  | objectClass _ _ _ _ => "class_body"
  | interface _ _ _ => "interface_body"

def fieldType : Declaration → String
  | objectClass _ _ _ _ => "public_field_definition"
  | interface _ _ _ => "property_signature"

end Declaration

/-- The node pictures the declaration, and starts at the beginning of a row. -/
def DeclarationTree (declaration : Declaration) (row : Nat) (node : RawNode) : Prop :=
  ∃ name heritage members body,
    node.start = ⟨row, 0⟩ ∧ Spells "type_identifier" declaration.name.text name ∧
    HeritageTree declaration heritage ∧
    List.Forall₂ (FieldTree declaration.fieldType) declaration.fields members ∧
    Holds declaration.bodyType members body ∧
    Holds declaration.treeType (name.under "name" :: (heritage ++ [body.under "body"])) node

/-- The nodes picture the declarations, of which the first starts at a given row. -/
inductive RowTrees : Nat → List Declaration → List RawNode → Prop where
  | nil (row : Nat) : RowTrees row [] []
  | cons (row : Nat) (declaration : Declaration) (rest : List Declaration) (node : RawNode)
      (nodes : List RawNode) (pictured : DeclarationTree declaration row node)
      (behind : RowTrees (row + declaration.lines.length) rest nodes) :
      RowTrees row (declaration :: rest) (node :: nodes)

/-- The tree pictures a plain source, with nothing in it that is not a declaration. -/
structure SourceTree (declarations : List Declaration) (root : RawNode) : Prop where
  named : root.named = true
  type : root.type = "program"
  rows : RowTrees 0 declarations root.children

end SourceAtlas.Plain
