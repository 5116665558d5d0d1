import SourceAtlas.Tree.Node

/-!
The traversal on which all collection rests.

Nodes are visited in pre-order, each with a nesting depth that grows only below a visit that asks
for it. The nodes still to be visited are kept on a stack, so the height of a tree does not matter,
and the visits thread a state of any type.
-/

namespace SourceAtlas.Tree

inductive Step where
  /-- Visit the children at the same depth. -/
  | descend
  /-- Visit the children one level deeper. -/
  | enter
  /-- Leave the children out. -/
  | skip
  deriving DecidableEq, Repr

abbrev Visit (State : Type) := State → Node → Nat → Step × State

/-- Nodes still to be visited, each with its depth, the next one in front. -/
abbrev Pending := List (Node × Nat)

def pendingWeight (pending : Pending) : Nat :=
  Node.weights (pending.map (·.1))

/-- Put nodes of one depth in front of what is pending. -/
def expect (nodes : List Node) (depth : Nat) (pending : Pending) : Pending :=
  nodes.map (·, depth) ++ pending

theorem pendingWeight_expect (nodes : List Node) (depth : Nat) (pending : Pending) :
    pendingWeight (expect nodes depth pending) = Node.weights nodes + pendingWeight pending := by
  simp [pendingWeight, expect, Node.weights_append, Function.comp_def]

theorem pendingWeight_cons (node : Node) (depth : Nat) (pending : Pending) :
    pendingWeight ((node, depth) :: pending) =
      1 + Node.weights node.children + pendingWeight pending := by
  simp [pendingWeight, Node.weights, Node.weight_eq]

/-- Visit what is pending, and whatever the visits make pending in turn. -/
def walkPending {State : Type} (visit : Visit State) (state : State) (pending : Pending) : State :=
  match pending with
  | [] => state
  | (node, depth) :: rest =>
    match visit state node depth with
    | (.descend, next) => walkPending visit next (expect node.children depth rest)
    | (.enter, next) => walkPending visit next (expect node.children (depth + 1) rest)
    | (.skip, next) => walkPending visit next rest
termination_by pendingWeight pending
decreasing_by
  all_goals simp only [pendingWeight_expect, pendingWeight_cons]; omega

/-- Visit the tree below `root`, which itself has depth zero. -/
def walk {State : Type} (visit : Visit State) (state : State) (root : Node) : State :=
  walkPending visit state [(root, 0)]

end SourceAtlas.Tree
