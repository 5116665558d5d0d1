import Mathlib.Data.List.Basic
import SourceAtlas.Tree.Walk

/-!
The traversal without its stack. `recurse` visits a node and then, unless the visit skips them, its
children from first to last. What is pending stands for the recursive calls that are still to be
made, so the loop and the recursion agree from every pending list on and not only from the root.
-/

namespace SourceAtlas.Tree

namespace Node

theorem weight_le_weights (nodes : List Node) (node : Node) (member : node ∈ nodes) :
    node.weight ≤ weights nodes := by
  induction nodes with
  | nil => simp at member
  | cons first rest ih =>
      simp only [weights]
      rcases List.mem_cons.mp member with same | later
      · subst same
        omega
      · have bound := ih later
        omega

theorem child_weight (node child : Node) (member : child ∈ node.children) :
    child.weight < node.weight := by
  have bound := weight_le_weights node.children child member
  rw [weight_eq node]
  omega

/-- Trees are finite: what passes from the children to their node holds everywhere. -/
@[elab_as_elim]
theorem child_induction {motive : Node → Prop}
    (step : ∀ node, (∀ child ∈ node.children, motive child) → motive node)
    (node : Node) : motive node := by
  induction size : node.weight using Nat.strongRecOn generalizing node with
  | ind size ih =>
      apply step
      intro child member
      exact ih child.weight (size ▸ child_weight node child member) child rfl

end Node

variable {State : Type}

mutual

def recurse (visit : Visit State) (state : State) (depth : Nat) : Node → State
  | node@⟨_, _, _, _, _, children⟩ =>
    match visit state node depth with
    | (.descend, next) => recurseAll visit next depth children
    | (.enter, next) => recurseAll visit next (depth + 1) children
    | (.skip, next) => next

def recurseAll (visit : Visit State) (state : State) (depth : Nat) : List Node → State
  | [] => state
  | node :: rest => recurseAll visit (recurse visit state depth node) depth rest

end

theorem recurse_eq (visit : Visit State) (state : State) (depth : Nat) (node : Node) :
    recurse visit state depth node =
      match visit state node depth with
      | (.descend, next) => recurseAll visit next depth node.children
      | (.enter, next) => recurseAll visit next (depth + 1) node.children
      | (.skip, next) => next := by
  cases node
  rw [recurse]

theorem recurse_all_fold (visit : Visit State) (state : State) (depth : Nat)
    (nodes : List Node) :
    recurseAll visit state depth nodes =
      nodes.foldl (fun current node => recurse visit current depth node) state := by
  induction nodes generalizing state with
  | nil => rw [recurseAll, List.foldl_nil]
  | cons node rest ih => rw [recurseAll, ih, List.foldl_cons]

/-- The recursive calls that a pending list stands for, made one after the other. -/
def recursePending (visit : Visit State) (state : State) (pending : Pending) : State :=
  pending.foldl (fun current entry => recurse visit current entry.2 entry.1) state

theorem recurse_pending_expect (visit : Visit State) (state : State) (nodes : List Node)
    (depth : Nat) (pending : Pending) :
    recursePending visit state (expect nodes depth pending) =
      recursePending visit (recurseAll visit state depth nodes) pending := by
  simp only [recursePending, expect, List.foldl_append, List.foldl_map, recurse_all_fold]

-- The invariant of the loop. Leftovers of all ancestors lie below the children pushed last, and
-- each of them is a recursive call at the depth it was pushed with.
theorem walk_pending_exact (visit : Visit State) (state : State) (pending : Pending) :
    walkPending visit state pending = recursePending visit state pending := by
  fun_induction walkPending visit state pending with
  | case1 state => rfl
  | case2 state node depth rest next visited ih =>
      rw [ih, recurse_pending_expect]
      simp only [recursePending, List.foldl_cons, recurse_eq visit state depth node, visited]
  | case3 state node depth rest next visited ih =>
      rw [ih, recurse_pending_expect]
      simp only [recursePending, List.foldl_cons, recurse_eq visit state depth node, visited]
  | case4 state node depth rest next visited ih =>
      rw [ih]
      simp only [recursePending, List.foldl_cons, recurse_eq visit state depth node, visited]

theorem walk_exact (visit : Visit State) (state : State) (root : Node) :
    walk visit state root = recurse visit state 0 root := by
  rw [walk, walk_pending_exact]
  rfl

/-! What every visit keeps holds behind the traversal. Only visits of allowed nodes count, where
whatever lies below an allowed node is allowed. -/

section Keeps

variable (allowed : Node → Prop)
  (inherits : ∀ node, allowed node → ∀ child ∈ node.children, allowed child)
  (holds : State → Prop) (visit : Visit State)
  (keeps : ∀ state node depth, allowed node → holds state → holds (visit state node depth).2)

include inherits keeps

theorem walk_pending_keeps (state : State) (pending : Pending)
    (every : ∀ entry ∈ pending, allowed entry.1) (start : holds state) :
    holds (walkPending visit state pending) := by
  have expected : ∀ node, allowed node → ∀ depth rest, (∀ entry ∈ rest, allowed entry.1) →
      ∀ entry ∈ expect node.children depth rest, allowed entry.1 := by
    intro node here depth rest others
    rw [expect, List.forall_mem_append, List.forall_mem_map]
    exact ⟨inherits node here, others⟩
  fun_induction walkPending visit state pending with
  | case1 state => exact start
  | case2 state node depth rest next visited ih =>
      obtain ⟨here, others⟩ := List.forall_mem_cons.mp every
      have kept := keeps state node depth here start
      rw [visited] at kept
      exact ih (expected node here depth rest others) kept
  | case3 state node depth rest next visited ih =>
      obtain ⟨here, others⟩ := List.forall_mem_cons.mp every
      have kept := keeps state node depth here start
      rw [visited] at kept
      exact ih (expected node here (depth + 1) rest others) kept
  | case4 state node depth rest next visited ih =>
      obtain ⟨here, others⟩ := List.forall_mem_cons.mp every
      have kept := keeps state node depth here start
      rw [visited] at kept
      exact ih others kept

theorem walk_keeps (state : State) (root : Node) (atRoot : allowed root) (start : holds state) :
    holds (walk visit state root) :=
  walk_pending_keeps allowed inherits holds visit keeps state _ (by simpa using atRoot) start

end Keeps

/-! Two traversals that take the same steps. When the states of one are images of the states of the
other before and after every visit, its result is the image of the other's result. -/

section Image

variable {Image : Type}

theorem recurse_all_image (image : State → Image) (visit : Visit State) (shadow : Visit Image)
    (depth : Nat) (nodes : List Node)
    (inside : ∀ node ∈ nodes, ∀ state, recurse shadow (image state) depth node =
      image (recurse visit state depth node)) (state : State) :
    recurseAll shadow (image state) depth nodes = image (recurseAll visit state depth nodes) := by
  induction nodes generalizing state with
  | nil => rw [recurseAll, recurseAll]
  | cons node rest ih =>
      have others := ih fun later member => inside later (List.mem_cons_of_mem node member)
      rw [recurseAll, recurseAll, inside node List.mem_cons_self, others]

theorem recurse_image (image : State → Image) (visit : Visit State) (shadow : Visit Image)
    (follows : ∀ state node depth, shadow (image state) node depth =
      ((visit state node depth).1, image (visit state node depth).2))
    (state : State) (depth : Nat) (node : Node) :
    recurse shadow (image state) depth node = image (recurse visit state depth node) := by
  induction node using Node.child_induction generalizing state depth with
  | step node ih =>
      have below := fun level => recurse_all_image image visit shadow level node.children
        fun child member current => ih child member current level
      rw [recurse_eq, recurse_eq, follows]
      rcases visit state node depth with ⟨step, next⟩
      cases step with
      | descend => exact below depth next
      | enter => exact below (depth + 1) next
      | skip => rfl

theorem walk_image (image : State → Image) (visit : Visit State) (shadow : Visit Image)
    (follows : ∀ state node depth, shadow (image state) node depth =
      ((visit state node depth).1, image (visit state node depth).2))
    (state : State) (root : Node) :
    walk shadow (image state) root = image (walk visit state root) := by
  rw [walk_exact, walk_exact]
  exact recurse_image image visit shadow follows state 0 root

end Image

end SourceAtlas.Tree
