import Mathlib.Data.List.Basic
import SourceAtlas.Proofs.Occurrences

/-!
The outermost nodes that pass a test: those that pass it and lie in no other node that does. A
traversal that takes something from every node that passes, and looks below the others only, meets
exactly these, in pre-order.
-/

namespace SourceAtlas.Tree

/-- Whether an occurrence passes the test and nothing that it lies in does. -/
def uncovered (test : Node → Bool) (occurrence : Occurrence) : Bool :=
  test occurrence.2 && !occurrence.1.any test

def outermostBelow (test : Node → Bool) (ancestors : List Node) (node : Node) : List Node :=
  ((occurrences ancestors node).filter (uncovered test)).map Prod.snd

def outermost (test : Node → Bool) (root : Node) : List Node :=
  outermostBelow test [] root

variable (test : Node → Bool)

theorem outermost_below_covered (ancestors : List Node) (node : Node)
    (covered : ancestors.any test = true) : outermostBelow test ancestors node = [] := by
  rw [outermostBelow, List.map_eq_nil_iff, List.filter_eq_nil_iff]
  intro occurrence member
  obtain ⟨above, aboveMember, passes⟩ := List.any_eq_true.mp covered
  have higher := (occurrences_suffix ancestors node occurrence member).subset aboveMember
  have hidden : occurrence.1.any test = true := List.any_eq_true.mpr ⟨above, higher, passes⟩
  simp [uncovered, hidden]

theorem outermost_below_eq (ancestors : List Node) (node : Node)
    (free : ancestors.any test = false) :
    outermostBelow test ancestors node =
      if test node then [node]
      else node.children.flatMap (outermostBelow test (node :: ancestors)) := by
  have below : ((occurrencesAll (node :: ancestors) node.children).filter (uncovered test)).map
      Prod.snd = node.children.flatMap (outermostBelow test (node :: ancestors)) := by
    rw [occurrences_all_flat, List.filter_flatMap, List.map_flatMap]
    rfl
  rw [outermostBelow, occurrences_eq]
  by_cases passes : test node = true
  · have nothing : node.children.flatMap (outermostBelow test (node :: ancestors)) = [] := by
      apply List.flatMap_eq_nil_iff.mpr
      intro child _
      exact outermost_below_covered test _ child (by simp [passes])
    rw [nothing, List.map_eq_nil_iff] at below
    simp [uncovered, passes, free, below]
  · simp [uncovered, passes, below]

/-- Ancestors that do not pass the test may be forgotten. -/
theorem outermost_below_free (left right : List Node) (node : Node)
    (leftFree : left.any test = false) (rightFree : right.any test = false) :
    outermostBelow test left node = outermostBelow test right node := by
  induction node using Node.child_induction generalizing left right with
  | step node ih =>
      rw [outermost_below_eq test left node leftFree, outermost_below_eq test right node rightFree]
      by_cases passes : test node = true
      · simp [passes]
      · rw [if_neg passes, if_neg passes]
        apply List.flatMap_congr
        intro child member
        exact ih child member _ _ (by simp [passes, leftFree]) (by simp [passes, rightFree])

theorem outermost_pass (node : Node) (passes : test node = true) : outermost test node = [node] := by
  rw [outermost, outermost_below_eq test [] node rfl, if_pos passes]

theorem outermost_fail (node : Node) (fails : test node = false) :
    outermost test node = node.children.flatMap (outermost test) := by
  rw [outermost, outermost_below_eq test [] node rfl, if_neg (by simp [fails])]
  apply List.flatMap_congr
  intro child _
  exact outermost_below_free test [node] [] child (by simp [fails]) rfl

theorem outermost_member (root node : Node) (member : node ∈ outermost test root) :
    test node = true ∧ ∃ ancestors, (ancestors, node) ∈ occurrences [] root := by
  obtain ⟨⟨ancestors, _⟩, kept, rfl⟩ := List.mem_map.mp member
  obtain ⟨reached, free⟩ := List.mem_filter.mp kept
  exact ⟨(Bool.and_eq_true_iff.mp free).1, ancestors, reached⟩

/-- What passes a narrow test lies in what passes a wider one. -/
theorem outermost_refine (wide : Node → Bool)
    (wider : ∀ node, test node = true → wide node = true) (root : Node) :
    outermost test root = (outermost wide root).flatMap (outermost test) := by
  induction root using Node.child_induction with
  | step node ih =>
      cases passes : wide node with
      | true => rw [outermost_pass wide node passes, List.flatMap_singleton]
      | false =>
          have fails : test node = false := by
            by_contra narrow
            simp [wider node (by simpa using narrow)] at passes
          rw [outermost_fail test node fails, outermost_fail wide node passes, List.flatMap_assoc]
          exact List.flatMap_congr ih

/-- A narrow test is passed in no other node that passes it, where this holds of a wider one. -/
theorem outermost_narrow (wide : Node → Bool)
    (wider : ∀ node, test node = true → wide node = true) (root node : Node)
    (member : node ∈ outermost wide root) (passes : test node = true) :
    node ∈ outermost test root := by
  rw [outermost_refine test wide wider]
  refine List.mem_flatMap.mpr ⟨node, member, ?_⟩
  rw [outermost_pass test node passes]
  exact List.mem_cons_self

/-- The wide test may be replaced by the narrow one where only the narrow one is passed. -/
theorem outermost_all_narrow (wide : Node → Bool)
    (wider : ∀ node, test node = true → wide node = true) (root : Node)
    (every : ∀ node ∈ outermost wide root, test node = true) :
    outermost test root = outermost wide root := by
  have single : ∀ node ∈ outermost wide root, outermost test node = [node] :=
    fun node member => outermost_pass test node (every node member)
  rw [outermost_refine test wide wider, List.flatMap_congr single, List.flatMap_singleton']

/-! Traversals that gather. -/

variable {Item : Type} (pick : Node → List Item)

/-- The visit that takes from the nodes that pass the test and looks below all others. -/
def gather : Visit (List Item) := fun found node _ =>
  if test node then (.skip, found ++ pick node) else (.descend, found)

theorem recurse_all_gathers (depth : Nat) (nodes : List Node)
    (gathers : ∀ node ∈ nodes, ∀ found, recurse (gather test pick) found depth node =
      found ++ (outermost test node).flatMap pick) (found : List Item) :
    recurseAll (gather test pick) found depth nodes =
      found ++ (nodes.flatMap (outermost test)).flatMap pick := by
  induction nodes generalizing found with
  | nil => simp [recurseAll]
  | cons node rest ih =>
      have others := ih fun later member => gathers later (List.mem_cons_of_mem node member)
      rw [recurseAll, gathers node List.mem_cons_self, others, List.flatMap_cons,
        List.flatMap_append, List.append_assoc]

theorem recurse_gathers (found : List Item) (depth : Nat) (node : Node) :
    recurse (gather test pick) found depth node = found ++ (outermost test node).flatMap pick := by
  induction node using Node.child_induction generalizing found with
  | step node ih =>
      rw [recurse_eq]
      cases passes : test node with
      | true => simp [gather, passes, outermost_pass test node passes]
      | false =>
          rw [outermost_fail test node passes]
          simp only [gather, passes, Bool.false_eq_true, if_false]
          exact recurse_all_gathers test pick depth node.children ih found

theorem walk_gathers (found : List Item) (root : Node) :
    walk (gather test pick) found root = found ++ (outermost test root).flatMap pick := by
  rw [walk_exact]
  exact recurse_gathers test pick found 0 root

end SourceAtlas.Tree
