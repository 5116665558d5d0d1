import Mathlib.Data.List.Forall2
import SourceAtlas.Outline.Entities
import SourceAtlas.Proofs.Occurrences

/-!
Which declarations are reported. The entities of a tree are those of its declaring occurrences that
lie in few enough declarations, one for one and in pre-order. The slot for the name of a variable
passes through the whole traversal, but it can change no more of an entity than the name.
-/

open SourceAtlas.Tree

namespace SourceAtlas.Outline

def declares (node : Node) : Bool :=
  match node.kind with
  | .classDecl => true
  | .interfaceDecl => true
  | .functionDecl => true
  | .enumDecl => true
  | _ => false

/-- How many declarations an occurrence lies in. -/
def nesting (ancestors : List Node) : Nat :=
  ancestors.countP declares

def reported (options : AnalysisOptions) (occurrence : Occurrence) : Bool :=
  declares occurrence.2 && nesting occurrence.1 < options.maxDepth

def declaredKind? : Kind → Option EntityKind
  | .classDecl => some .objectClass
  | .interfaceDecl => some .interface
  | .functionDecl => some .function
  | .enumDecl => some .enumeration
  | _ => none

/-- What the rule for its kind makes of a declaring node, whatever surrounds the node. -/
def FollowsRule (options : AnalysisOptions) (node : Node) (entity : Entity) : Prop :=
  match node.kind with
  | .classDecl => entity = { classifier .objectClass options node with name := entity.name }
  | .interfaceDecl => entity = { classifier .interface options node with name := entity.name }
  | .functionDecl => entity = { function node with name := entity.name }
  | .enumDecl => entity = { enumeration node with name := entity.name }
  | _ => False

structure Describes (options : AnalysisOptions) (entity : Entity) (node : Node) : Prop where
  kind : declaredKind? node.kind = some entity.kind
  position : entity.position = node.position
  rule : FollowsRule options node entity

theorem nesting_cons (node : Node) (ancestors : List Node) :
    nesting (node :: ancestors) = nesting ancestors + if declares node then 1 else 0 :=
  List.countP_cons

/-- Below a declaration that is nested too deep nothing is reported. -/
theorem reported_nowhere (options : AnalysisOptions) (ancestors : List Node) (node : Node)
    (deep : options.maxDepth ≤ nesting ancestors) :
    (occurrences ancestors node).filter (reported options) = [] := by
  apply List.filter_eq_nil_iff.mpr
  intro occurrence member
  have nested : nesting ancestors ≤ nesting occurrence.1 :=
    (occurrences_suffix ancestors node occurrence member).sublist.countP_le
  have tooDeep : ¬ nesting occurrence.1 < options.maxDepth := by omega
  simp [reported, tooDeep]

theorem declaration_describes (options : AnalysisOptions) (node : Node) (entity : Entity)
    (found : declaration? options node = some entity) (name : String) :
    Describes options { entity with name } node := by
  unfold declaration? at found
  split at found <;> cases found <;> rename_i kind <;>
    exact ⟨by rw [kind]; rfl, rfl, by simp only [FollowsRule, kind]⟩

theorem declaration_none_iff (options : AnalysisOptions) (node : Node) :
    declaration? options node = none ↔ declares node = false := by
  unfold declaration? declares
  cases node.kind <;> simp

/-- All that a visit can do. Only a declaration that is not nested too deep adds an entity, and
every declaration empties the slot, also one that is left out. -/
theorem visit_declaration_cases (options : AnalysisOptions) (found : Found) (node : Node)
    (depth : Nat) :
    (declares node = false ∧
      visitDeclaration options found node depth = (.descend, { found with
        binding := if node.kind = .declarator then boundName? node else found.binding })) ∨
    (declares node = true ∧ options.maxDepth ≤ depth ∧
      visitDeclaration options found node depth = (.skip, { found with binding := none })) ∨
    (declares node = true ∧ depth < options.maxDepth ∧
      ∃ entity, declaration? options node = some entity ∧
        visitDeclaration options found node depth = (.enter, {
          binding := none
          entities := found.entities ++
            [{ entity with name := found.binding.getD entity.name }] })) := by
  by_cases declarator : node.kind = .declarator
  · left
    simp [visitDeclaration, declares, declarator]
  · cases rule : declaration? options node with
    | none =>
        left
        have silent := (declaration_none_iff options node).mp rule
        simp [visitDeclaration, declarator, rule, silent]
    | some entity =>
        have declaring : declares node = true := by
          cases declared : declares node with
          | true => rfl
          | false => simp [(declaration_none_iff options node).mpr declared] at rule
        by_cases deep : options.maxDepth ≤ depth
        · refine Or.inr (Or.inl ⟨declaring, deep, ?_⟩)
          simp [visitDeclaration, declarator, rule, deep]
        · refine Or.inr (Or.inr ⟨declaring, Nat.lt_of_not_le deep, entity, rfl, ?_⟩)
          simp [visitDeclaration, declarator, rule, deep]

/-- What a stretch of the traversal adds: entities for the reported occurrences it passes. -/
def Adds (options : AnalysisOptions) (before after : Found) (passed : List Occurrence) : Prop :=
  ∃ added, after.entities = before.entities ++ added ∧
    List.Forall₂ (fun entity occurrence => Describes options entity occurrence.2) added
      (passed.filter (reported options))

theorem adds_nothing (options : AnalysisOptions) (before after : Found) (passed : List Occurrence)
    (same : after.entities = before.entities) (none : passed.filter (reported options) = []) :
    Adds options before after passed :=
  ⟨[], by simp [same], by simp [none]⟩

theorem adds_trans (options : AnalysisOptions) (before middle after : Found)
    (first second : List Occurrence) (left : Adds options before middle first)
    (right : Adds options middle after second) : Adds options before after (first ++ second) := by
  obtain ⟨early, reached, matched⟩ := left
  obtain ⟨late, finished, rest⟩ := right
  refine ⟨early ++ late, by rw [finished, reached, List.append_assoc], ?_⟩
  rw [List.filter_append]
  exact List.rel_append matched rest

theorem recurse_all_adds (options : AnalysisOptions) (ancestors : List Node) (depth : Nat)
    (nodes : List Node)
    (adds : ∀ node ∈ nodes, ∀ found, Adds options found
      (recurse (visitDeclaration options) found depth node) (occurrences ancestors node))
    (found : Found) :
    Adds options found (recurseAll (visitDeclaration options) found depth nodes)
      (occurrencesAll ancestors nodes) := by
  induction nodes generalizing found with
  | nil => exact adds_nothing options found _ _ (by rw [recurseAll]) (by rw [occurrencesAll]; rfl)
  | cons node rest ih =>
      have first := adds node List.mem_cons_self found
      have others := ih (fun later member => adds later (List.mem_cons_of_mem node member))
        (recurse (visitDeclaration options) found depth node)
      rw [recurseAll, occurrencesAll]
      exact adds_trans options found _ _ _ _ first others

theorem recurse_adds (options : AnalysisOptions) (ancestors : List Node) (node : Node)
    (found : Found) :
    Adds options found (recurse (visitDeclaration options) found (nesting ancestors) node)
      (occurrences ancestors node) := by
  induction node using Node.child_induction generalizing ancestors found with
  | step node ih =>
      have inside := fun depth (level : depth = nesting (node :: ancestors)) =>
        recurse_all_adds options (node :: ancestors) depth node.children
          (fun child member current => level ▸ ih child member (node :: ancestors) current)
      have deeper := nesting_cons node ancestors
      rw [recurse_eq]
      rcases visit_declaration_cases options found node (nesting ancestors) with
        ⟨silent, visited⟩ | ⟨declaring, deep, visited⟩ | ⟨declaring, shallow, entity, rule, visited⟩
      · simp only [visited, occurrences_eq]
        have here : Adds options found
            { found with binding := if node.kind = .declarator then boundName? node
                                    else found.binding } [(ancestors, node)] :=
          adds_nothing options _ _ _ rfl (by simp [reported, silent])
        exact adds_trans options found _ _ [(ancestors, node)] _ here
          (inside _ (by simp [deeper, silent]) _)
      · simp only [visited]
        exact adds_nothing options _ _ _ rfl (reported_nowhere options ancestors node deep)
      · simp only [visited, occurrences_eq]
        have here : Adds options found
            ⟨none, found.entities ++ [{ entity with name := found.binding.getD entity.name }]⟩
            [(ancestors, node)] := by
          refine ⟨_, rfl, ?_⟩
          have listed : [(ancestors, node)].filter (reported options) = [(ancestors, node)] := by
            simp [reported, declaring, shallow]
          rw [listed]
          exact .cons (declaration_describes options node entity rule _) .nil
        exact adds_trans options found _ _ [(ancestors, node)] _ here
          (inside _ (by simp [deeper, declaring]) _)

/-- Whatever follows from describing a node holds of the entities and the reported occurrences, one
for one. -/
theorem entities_related (options : AnalysisOptions) (root : Node)
    (related : Entity → Occurrence → Prop)
    (follows : ∀ entity occurrence, Describes options entity occurrence.2 →
      related entity occurrence) :
    List.Forall₂ related (entities options root)
      ((occurrences [] root).filter (reported options)) := by
  obtain ⟨added, whole, matched⟩ := recurse_adds options [] root {}
  have collected : entities options root = added := by
    rw [entities, walk_exact]
    simpa [nesting] using whole
  rw [collected]
  exact matched.imp follows

/-- Every entity describes a declaration that occurs in the tree. -/
theorem entity_occurs (options : AnalysisOptions) (root : Node) (entity : Entity)
    (member : entity ∈ entities options root) :
    ∃ occurrence ∈ occurrences [] root, Describes options entity occurrence.2 := by
  have matched := entities_related options root _ fun _ _ described => described
  obtain ⟨index, bound, rfl⟩ := List.getElem_of_mem member
  have reached := matched.length_eq ▸ bound
  exact ⟨_, (List.mem_filter.mp (List.getElem_mem reached)).1, matched.get bound reached⟩

theorem entities_report_occurrences (options : AnalysisOptions) (root : Node) :
    List.Forall₂ (fun entity occurrence => Describes options entity occurrence.2)
      (entities options root) ((occurrences [] root).filter (reported options)) :=
  entities_related options root _ fun _ _ described => described

end SourceAtlas.Outline
