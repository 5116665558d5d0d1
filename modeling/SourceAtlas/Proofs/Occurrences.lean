import Mathlib.Data.List.Basic
import SourceAtlas.Proofs.Recursion

/-!
Nodes where they stand. An occurrence is a node together with the nodes it lies in, so a node that
is shared by two parents occurs twice.
-/

namespace SourceAtlas.Tree

/-- The proper ancestors of a node, the nearest in front, and the node itself. -/
abbrev Occurrence := List Node × Node

mutual

def occurrences (ancestors : List Node) : Node → List Occurrence
  | node@⟨_, _, _, _, _, children⟩ =>
    (ancestors, node) :: occurrencesAll (node :: ancestors) children

def occurrencesAll (ancestors : List Node) : List Node → List Occurrence
  | [] => []
  | node :: rest => occurrences ancestors node ++ occurrencesAll ancestors rest

end

theorem occurrences_eq (ancestors : List Node) (node : Node) :
    occurrences ancestors node =
      (ancestors, node) :: occurrencesAll (node :: ancestors) node.children := by
  cases node
  rw [occurrences]

theorem occurrences_all_flat (ancestors nodes : List Node) :
    occurrencesAll ancestors nodes = nodes.flatMap (occurrences ancestors) := by
  induction nodes with
  | nil => rw [occurrencesAll, List.flatMap_nil]
  | cons node rest ih => rw [occurrencesAll, ih, List.flatMap_cons]

theorem occurrences_suffix (ancestors : List Node) (node : Node) (occurrence : Occurrence)
    (member : occurrence ∈ occurrences ancestors node) : ancestors <:+ occurrence.1 := by
  induction node using Node.child_induction generalizing ancestors with
  | step node ih =>
      rw [occurrences_eq, occurrences_all_flat] at member
      rcases List.mem_cons.mp member with same | below
      · subst same
        exact List.suffix_rfl
      · obtain ⟨child, childMember, inside⟩ := List.mem_flatMap.mp below
        exact (List.suffix_cons node ancestors).trans (ih child childMember _ inside)

end SourceAtlas.Tree
