import SourceAtlas.Proofs.VariableSlot
import SourceAtlas.TypeScript.RawNode

/-!
Properties of all nodes of a raw tree, which carry over to the tree it stands for, and the types of
raw nodes that stand for a declaration or an import.
-/

open SourceAtlas.Tree

namespace SourceAtlas.TypeScript

namespace RawNode

/-- The property holds of the node and of every node below it. -/
inductive Everywhere (holds : RawNode → Prop) : RawNode → Prop where
  | node (node : RawNode) (here : holds node)
      (below : ∀ child ∈ node.children, Everywhere holds child) : Everywhere holds node

theorem everywhere_iff (holds : RawNode → Prop) (node : RawNode) :
    node.Everywhere holds ↔ holds node ∧ ∀ child ∈ node.children, child.Everywhere holds := by
  constructor
  · rintro ⟨_, here, below⟩
    exact ⟨here, below⟩
  · rintro ⟨here, below⟩
    exact .node node here below

theorem Everywhere.imp {holds implied : RawNode → Prop} {node : RawNode}
    (everywhere : node.Everywhere holds) (each : ∀ node, holds node → implied node) :
    node.Everywhere implied := by
  induction everywhere with
  | node node here _ ih => exact .node node (each node here) ih

theorem throughout_view (holds : Node → Prop) (node : RawNode)
    (everywhere : node.Everywhere fun inside => holds inside.view) :
    Throughout holds node.view := by
  induction everywhere with
  | node node here _ ih =>
      rw [throughout_iff]
      refine ⟨here, ?_⟩
      intro child member
      rw [view_children] at member
      obtain ⟨raw, rawMember, rfl⟩ := List.mem_map.mp member
      exact ih raw rawMember

end RawNode

/-- The kinds of node whose position is reported. -/
def positioned : Kind → Bool
  | .classDecl => true
  | .interfaceDecl => true
  | .functionDecl => true
  | .enumDecl => true
  | .importDecl => true
  | _ => false

def positionedTypes : List String :=
  ["class_declaration", "abstract_class_declaration", "class", "interface_declaration",
    "function_declaration", "generator_function_declaration", "enum_declaration",
    "import_statement"]

theorem keyword_unpositioned (text : String) : positioned (RawNode.keyword text) = false := by
  unfold RawNode.keyword
  split <;> rfl

theorem positioned_type (type text : String) :
    positioned (RawNode.kindOfType type text) = true ↔ type ∈ positionedTypes := by
  have access := keyword_unpositioned text
  unfold RawNode.kindOfType
  split
  case h_23 => simp [access, positionedTypes]
  all_goals simp_all [positioned, positionedTypes]

end SourceAtlas.TypeScript
