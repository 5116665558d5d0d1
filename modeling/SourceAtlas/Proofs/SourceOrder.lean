import SourceAtlas.Proofs.ImportedNames
import SourceAtlas.Proofs.VariableSlot

/-!
Reports in source order. In the tree of a text no node starts before its parent, and nothing in an
earlier sibling starts behind a later one. So positions never fall back along the pre-order of the
tree. The traversals visit nodes in pre-order and may leave some out, and what they report stands
where its node stands.
-/

namespace SourceAtlas

namespace Position

/-- By line, and by column within a line. -/
def NotAfter (left right : Position) : Prop :=
  left.line < right.line ∨ left.line = right.line ∧ left.column ≤ right.column

instance (left right : Position) : Decidable (left.NotAfter right) :=
  inferInstanceAs (Decidable (_ ∨ _))

theorem not_after_refl (position : Position) : position.NotAfter position :=
  .inr ⟨rfl, Nat.le_refl _⟩

theorem not_after_trans (first second third : Position) (left : first.NotAfter second)
    (right : second.NotAfter third) : first.NotAfter third := by
  unfold NotAfter at *
  omega

end Position

namespace Tree

instance (holds : Node → Prop) [DecidablePred holds] (root : Node) :
    Decidable (Throughout holds root) :=
  inferInstanceAs (Decidable (∀ occurrence ∈ occurrences [] root, holds occurrence.2))

/-- A node in its place: its children do not start before it, and nothing in an earlier child starts
behind a later one. -/
structure InPlace (node : Node) : Prop where
  children : ∀ child ∈ node.children, node.position.NotAfter child.position
  siblings : node.children.Pairwise fun earlier later =>
    Throughout (fun inner => inner.position.NotAfter later.position) earlier

instance (node : Node) : Decidable (InPlace node) :=
  decidable_of_iff
    ((∀ child ∈ node.children, node.position.NotAfter child.position) ∧
      node.children.Pairwise fun earlier later =>
        Throughout (fun inner => inner.position.NotAfter later.position) earlier)
    ⟨fun both => ⟨both.1, both.2⟩, fun inPlace => ⟨inPlace.children, inPlace.siblings⟩⟩

theorem nothing_before (node : Node) (inPlace : Throughout InPlace node) :
    Throughout (fun inner => node.position.NotAfter inner.position) node := by
  induction node using Node.child_induction with
  | step node ih =>
      obtain ⟨here, below⟩ := (throughout_iff InPlace node).mp inPlace
      rw [throughout_iff]
      refine ⟨node.position.not_after_refl, ?_⟩
      intro child member occurrence inside
      have start := here.children child member
      exact Position.not_after_trans _ _ _ start (ih child member (below child member) _ inside)

/-- Positions do not fall back along the pre-order. -/
theorem occurrences_in_order (ancestors : List Node) (node : Node)
    (inPlace : Throughout InPlace node) :
    (occurrences ancestors node).Pairwise fun earlier later =>
      earlier.2.position.NotAfter later.2.position := by
  induction node using Node.child_induction generalizing ancestors with
  | step node ih =>
      obtain ⟨here, below⟩ := (throughout_iff InPlace node).mp inPlace
      have behind := (throughout_at _ ancestors node).mp (nothing_before node inPlace)
      rw [occurrences_eq, occurrences_all_flat] at behind ⊢
      rw [List.pairwise_cons, List.pairwise_flatMap]
      refine ⟨?_, ?_, ?_⟩
      · intro occurrence member
        exact behind occurrence (List.mem_cons_of_mem _ member)
      · intro child member
        exact ih child member (node :: ancestors) (below child member)
      · -- The start of the later child lies between all in the earlier child and all in the later.
        refine here.siblings.imp_of_mem ?_
        intro earlier later _ laterMember apart first firstMember second secondMember
        have left := (throughout_at _ (node :: ancestors) earlier).mp apart first firstMember
        have right := (throughout_at _ (node :: ancestors) later).mp
          (nothing_before later (below later laterMember)) second secondMember
        exact Position.not_after_trans _ _ _ left right

theorem kept_in_order (root : Node) (inPlace : Throughout InPlace root)
    (kept : Occurrence → Bool) :
    (((occurrences [] root).filter kept).map (·.2.position)).Pairwise Position.NotAfter := by
  rw [List.pairwise_map]
  exact (occurrences_in_order [] root inPlace).filter kept

end Tree

open SourceAtlas.Tree

namespace Outline

theorem entities_positions (options : AnalysisOptions) (root : Node) :
    (entities options root).map (·.position) =
      ((occurrences [] root).filter (reported options)).map (·.2.position) := by
  rw [← List.forall₂_eq_eq_eq, List.forall₂_map_left_iff, List.forall₂_map_right_iff]
  exact entities_related options root _ fun _ _ described => described.position

theorem imports_positions (root : Node) :
    (imports root).map (·.position) =
      ((occurrences [] root).filter (uncovered isImport)).map (·.2.position) := by
  rw [imports_outermost, outermost, outermostBelow, List.map_map, List.map_map]
  rfl

theorem reports_in_source_order (root : Node) (inPlace : Throughout InPlace root) :
    (∀ options, ((entities options root).map (·.position)).Pairwise Position.NotAfter) ∧
      ((imports root).map (·.position)).Pairwise Position.NotAfter := by
  constructor
  · intro options
    rw [entities_positions]
    exact kept_in_order root inPlace (reported options)
  · rw [imports_positions]
    exact kept_in_order root inPlace (uncovered isImport)

/-- Behind an import a class on the same line, whose method holds a class and an enumeration, and
one more import on the next line. -/
def spreadTree : Node :=
  TypeScript.parse .typescript
    "import \"a\"; class A \x7b m() \x7b class B \x7b\x7d enum C \x7b\x7d \x7d \x7d\nimport \"d\""

theorem reports_in_source_order_spread :
    Throughout InPlace spreadTree ∧
      (entities {} spreadTree).map (·.position) = [⟨1, 13⟩, ⟨1, 29⟩, ⟨1, 40⟩] ∧
      (imports spreadTree).map (·.position) = [⟨1, 1⟩, ⟨2, 1⟩] ∧
      ((entities {} spreadTree).map (·.position)).Pairwise Position.NotAfter ∧
      ((imports spreadTree).map (·.position)).Pairwise Position.NotAfter := by
  obtain ⟨inPlace, declared, imported⟩ : Throughout InPlace spreadTree ∧
      (entities {} spreadTree).map (·.position) = [⟨1, 13⟩, ⟨1, 29⟩, ⟨1, 40⟩] ∧
      (imports spreadTree).map (·.position) = [⟨1, 1⟩, ⟨2, 1⟩] := by
    decide +kernel
  have ordered := reports_in_source_order spreadTree inPlace
  exact ⟨inPlace, declared, imported, ordered.1 {}, ordered.2⟩

end Outline

end SourceAtlas
