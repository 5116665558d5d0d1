import Mathlib.Data.List.Basic
import SourceAtlas.Proofs.Extraction

/-!
The slot for the name of a variable, read off the pre-order of a tree. A declarator fills or clears
the slot, a declaration empties it, and no other node touches it. Where the value of a declarator
stands among its children, a stretch of the tree that declares anything leaves the slot empty. So
what lies inside a declaration cannot be told from the slot behind it, and the entities of a tree
are known without the traversal: each is made from its node and from what the slot holds there.
-/

namespace SourceAtlas.Tree

/-- The property holds of every node of the tree. -/
def Throughout (holds : Node → Prop) (root : Node) : Prop :=
  ∀ occurrence ∈ occurrences [] root, holds occurrence.2

theorem occurrences_nodes (left right : List Node) (node : Node) :
    (occurrences left node).map Prod.snd = (occurrences right node).map Prod.snd := by
  induction node using Node.child_induction generalizing left right with
  | step node ih =>
      rw [occurrences_eq, occurrences_eq, occurrences_all_flat, occurrences_all_flat]
      simp only [List.map_cons, List.map_flatMap, List.cons.injEq, true_and]
      exact List.flatMap_congr fun child member => ih child member _ _

/-- Which ancestors a tree is read below does not matter to its nodes. -/
theorem holds_below (holds : Node → Prop) (left right : List Node) (node : Node)
    (everywhere : ∀ occurrence ∈ occurrences left node, holds occurrence.2) :
    ∀ occurrence ∈ occurrences right node, holds occurrence.2 := by
  intro occurrence member
  have seen : occurrence.2 ∈ (occurrences left node).map Prod.snd :=
    occurrences_nodes right left node ▸ List.mem_map_of_mem member
  obtain ⟨other, otherMember, same⟩ := List.mem_map.mp seen
  exact same ▸ everywhere other otherMember

theorem throughout_at (holds : Node → Prop) (ancestors : List Node) (node : Node) :
    Throughout holds node ↔ ∀ occurrence ∈ occurrences ancestors node, holds occurrence.2 :=
  ⟨holds_below holds [] ancestors node, holds_below holds ancestors [] node⟩

theorem throughout_iff (holds : Node → Prop) (node : Node) :
    Throughout holds node ↔ holds node ∧ ∀ child ∈ node.children, Throughout holds child := by
  rw [Throughout, occurrences_eq, occurrences_all_flat, List.forall_mem_cons]
  refine and_congr_right fun _ => ?_
  constructor
  · intro everywhere child childMember
    rw [throughout_at holds [node]]
    intro occurrence member
    exact everywhere occurrence (List.mem_flatMap.mpr ⟨child, childMember, member⟩)
  · intro everywhere occurrence member
    obtain ⟨child, childMember, inside⟩ := List.mem_flatMap.mp member
    exact (throughout_at holds [node] child).mp (everywhere child childMember) occurrence inside

end SourceAtlas.Tree

open SourceAtlas.Tree

namespace SourceAtlas.Outline

/-- The value of a declarator stands among the declarator's children. -/
def ValueInside (node : Node) : Prop :=
  node.kind = .declarator → ∀ value, node.field? .value = some value → value ∈ node.children

/-- Whether a node leaves the slot as it is. -/
def quiet (node : Node) : Bool :=
  !declares node && node.kind != .declarator

/-- What the slot holds behind a node. -/
def passNode (slot : Option String) (node : Node) : Option String :=
  if node.kind = .declarator then boundName? node else if declares node then none else slot

def passAll (slot : Option String) (passed : List Occurrence) : Option String :=
  passed.foldl (fun held occurrence => passNode held occurrence.2) slot

/-- Occurrences in order, each with what the slot holds in front of it. -/
def slotted (slot : Option String) : List Occurrence → List (Option String × Occurrence)
  | [] => []
  | occurrence :: rest => (slot, occurrence) :: slotted (passNode slot occurrence.2) rest

theorem pass_all_append (slot : Option String) (first second : List Occurrence) :
    passAll slot (first ++ second) = passAll (passAll slot first) second :=
  List.foldl_append

theorem slotted_append (slot : Option String) (first second : List Occurrence) :
    slotted slot (first ++ second) = slotted slot first ++ slotted (passAll slot first) second := by
  induction first generalizing slot with
  | nil => rfl
  | cons occurrence rest ih => simp only [List.cons_append, slotted, ih]; rfl

theorem slotted_occurrences (slot : Option String) (passed : List Occurrence) :
    (slotted slot passed).map Prod.snd = passed := by
  induction passed generalizing slot with
  | nil => rfl
  | cons occurrence rest ih => rw [slotted, List.map_cons, ih]

theorem bound_value (declarator : Node) (name : String)
    (bound : boundName? declarator = some name) :
    ∃ value, declarator.field? .value = some value ∧ value.kind = .classDecl ∧
      value.field? .name = none ∧ ∃ named, declarator.field? .name = some named ∧
        named.kind = .identifier ∧ named.text = name := by
  unfold boundName? at bound
  split at bound
  · rename_i value named valueField nameField
    split at bound
    · rename_i anonymous
      simp only [Bool.and_eq_true, beq_iff_eq, Option.isNone_iff_eq_none] at anonymous
      exact ⟨value, valueField, anonymous.1.1, anonymous.1.2, named, nameField, anonymous.2,
        Option.some.inj bound⟩
    · cases bound
  · cases bound

theorem slot_behind_all (ancestors nodes : List Node)
    (behind : ∀ node ∈ nodes, ∀ slot, passAll slot (occurrences ancestors node) =
      if (occurrences ancestors node).all (quiet ·.2) then slot else none)
    (slot : Option String) :
    passAll slot (occurrencesAll ancestors nodes) =
      if (occurrencesAll ancestors nodes).all (quiet ·.2) then slot else none := by
  induction nodes generalizing slot with
  | nil => rw [occurrencesAll]; rfl
  | cons node rest ih =>
      have others := ih fun later member => behind later (List.mem_cons_of_mem node member)
      rw [occurrencesAll, pass_all_append, behind node List.mem_cons_self, others,
        List.all_append]
      cases (occurrences ancestors node).all (quiet ·.2) <;>
        cases (occurrencesAll ancestors rest).all (quiet ·.2) <;> rfl

/-- Behind a tree the slot is as it was or empty. A declarator that fills it has the class that it
binds among its children, so the slot is emptied before the declarator has been passed. -/
theorem slot_behind (ancestors : List Node) (node : Node) (inside : Throughout ValueInside node)
    (slot : Option String) :
    passAll slot (occurrences ancestors node) =
      if (occurrences ancestors node).all (quiet ·.2) then slot else none := by
  induction node using Node.child_induction generalizing ancestors slot with
  | step node ih =>
      obtain ⟨here, below⟩ := (throughout_iff _ _).mp inside
      have children := slot_behind_all (node :: ancestors) node.children
        fun child member => ih child member _ (below child member)
      have passed : passAll slot (occurrences ancestors node) =
          passAll (passNode slot node) (occurrencesAll (node :: ancestors) node.children) := by
        rw [occurrences_eq]
        rfl
      rw [passed, children, occurrences_eq, List.all_cons]
      by_cases declarator : node.kind = .declarator
      · have loud : quiet node = false := by simp [quiet, declarator]
        simp only [passNode, declarator, if_true, loud, Bool.false_and, Bool.false_eq_true,
          if_false, ite_eq_right_iff]
        intro allQuiet
        cases bound : boundName? node with
        | none => rfl
        | some name =>
            obtain ⟨value, field, isClass, _⟩ := bound_value node name bound
            have reached : (node :: ancestors, value) ∈
                occurrencesAll (node :: ancestors) node.children := by
              rw [occurrences_all_flat, List.mem_flatMap]
              refine ⟨value, here declarator value field, ?_⟩
              rw [occurrences_eq]
              exact List.mem_cons_self
            have silent := List.all_eq_true.mp allQuiet _ reached
            simp [quiet, declares, isClass] at silent
      · cases declaring : declares node with
        | true =>
            have loud : quiet node = false := by simp [quiet, declaring]
            simp [passNode, declarator, declaring, loud]
        | false =>
            have still : quiet node = true := by simp [quiet, declaring, declarator]
            have kept : passNode slot node = slot := by simp [passNode, declarator, declaring]
            rw [kept, still, Bool.true_and]

/-- The entity of an occurrence, made from its node and the slot, where one is reported. -/
def locate? (options : AnalysisOptions) (reached : Option String × Occurrence) :
    Option (Entity × Occurrence) :=
  if reported options reached.2 then
    (declaration? options reached.2.2).map fun entity =>
      ({ entity with name := reached.1.getD entity.name }, reached.2)
  else none

def located (options : AnalysisOptions) (slot : Option String) (passed : List Occurrence) :
    List (Entity × Occurrence) :=
  (slotted slot passed).filterMap (locate? options)

theorem located_append (options : AnalysisOptions) (slot : Option String)
    (first second : List Occurrence) :
    located options slot (first ++ second) =
      located options slot first ++ located options (passAll slot first) second := by
  rw [located, slotted_append, List.filterMap_append]
  rfl

theorem declaration_some (options : AnalysisOptions) (node : Node)
    (declaring : declares node = true) :
    ∃ entity, declaration? options node = some entity := by
  apply Option.ne_none_iff_exists'.mp
  intro missing
  rw [(declaration_none_iff options node).mp missing] at declaring
  cases declaring

theorem locate_reported (options : AnalysisOptions) (reached : Option String × Occurrence) :
    (locate? options reached).map Prod.snd = Option.guard (reported options) reached.2 := by
  unfold locate? Option.guard
  split
  · rename_i shown
    obtain ⟨entity, found⟩ := declaration_some options reached.2.2
      (Bool.and_eq_true_iff.mp shown).1
    rw [found]
    rfl
  · rfl

/-- Every reported occurrence has one entity, and no other occurrence has any. -/
theorem located_occurrences (options : AnalysisOptions) (slot : Option String)
    (passed : List Occurrence) :
    (located options slot passed).map Prod.snd = passed.filter (reported options) := by
  have shown : (fun reached => (locate? options reached).map Prod.snd) =
      Option.guard (reported options) ∘ Prod.snd :=
    funext (locate_reported options)
  rw [located, List.map_filterMap, shown, ← List.filterMap_map, slotted_occurrences,
    List.filterMap_eq_filter]

theorem located_describes (options : AnalysisOptions) (slot : Option String)
    (passed : List Occurrence) (found : Entity × Occurrence)
    (member : found ∈ located options slot passed) : Describes options found.1 found.2.2 := by
  obtain ⟨reached, _, made⟩ := List.mem_filterMap.mp member
  unfold locate? at made
  split at made
  · obtain ⟨entity, rule, same⟩ := Option.map_eq_some_iff.mp made
    subst same
    exact declaration_describes options reached.2.2 entity rule _
  · cases made

/-- What a stretch of the traversal does: it passes the slot on, and adds the located entities. -/
structure Passes (options : AnalysisOptions) (before after : Found) (passed : List Occurrence) :
    Prop where
  slot : after.binding = passAll before.binding passed
  added : after.entities =
    before.entities ++ (located options before.binding passed).map Prod.fst

theorem passes_trans (options : AnalysisOptions) (before middle after : Found)
    (first second : List Occurrence) (left : Passes options before middle first)
    (right : Passes options middle after second) :
    Passes options before after (first ++ second) := by
  constructor
  · rw [right.slot, left.slot, pass_all_append]
  · rw [right.added, left.added, left.slot, located_append, List.map_append, List.append_assoc]

theorem passes_visit (options : AnalysisOptions) (found next : Found) (occurrence : Occurrence)
    (slot : next.binding = passNode found.binding occurrence.2)
    (added : next.entities =
      found.entities ++ (locate? options (found.binding, occurrence)).toList.map Prod.fst) :
    Passes options found next [occurrence] := by
  refine ⟨slot, ?_⟩
  rw [added, located, slotted, slotted, List.filterMap_cons, List.filterMap_nil]
  cases locate? options (found.binding, occurrence) <;> rfl

theorem recurse_all_passes (options : AnalysisOptions) (ancestors : List Node) (depth : Nat)
    (nodes : List Node)
    (passes : ∀ node ∈ nodes, ∀ found, Passes options found
      (recurse (visitDeclaration options) found depth node) (occurrences ancestors node))
    (found : Found) :
    Passes options found (recurseAll (visitDeclaration options) found depth nodes)
      (occurrencesAll ancestors nodes) := by
  induction nodes generalizing found with
  | nil =>
      rw [recurseAll, occurrencesAll]
      exact ⟨rfl, by simp [located, slotted]⟩
  | cons node rest ih =>
      have first := passes node List.mem_cons_self found
      have others := ih (fun later member => passes later (List.mem_cons_of_mem node member))
        (recurse (visitDeclaration options) found depth node)
      rw [recurseAll, occurrencesAll]
      exact passes_trans options found _ _ _ _ first others

/-- A declaration that is left out with all that is inside it leaves the slot as passing through it
would have: empty. -/
theorem passes_left_out (options : AnalysisOptions) (ancestors : List Node) (node : Node)
    (inside : Throughout ValueInside node) (declaring : declares node = true)
    (deep : options.maxDepth ≤ nesting ancestors) (found : Found) :
    Passes options found { found with binding := none } (occurrences ancestors node) := by
  have loud : (occurrences ancestors node).all (quiet ·.2) = false := by
    simp [occurrences_eq, quiet, declaring]
  have nothing : located options found.binding (occurrences ancestors node) = [] := by
    rw [← List.map_eq_nil_iff (f := Prod.snd), located_occurrences]
    exact reported_nowhere options ancestors node deep
  constructor
  · rw [slot_behind ancestors node inside, loud]
    rfl
  · simp [nothing]

theorem recurse_passes (options : AnalysisOptions) (ancestors : List Node) (node : Node)
    (inside : Throughout ValueInside node) (found : Found) :
    Passes options found (recurse (visitDeclaration options) found (nesting ancestors) node)
      (occurrences ancestors node) := by
  induction node using Node.child_induction generalizing ancestors found with
  | step node ih =>
      have below := ((throughout_iff _ _).mp inside).2
      have children := fun depth (level : depth = nesting (node :: ancestors)) =>
        recurse_all_passes options (node :: ancestors) depth node.children
          fun child member current =>
            level ▸ ih child member (node :: ancestors) (below child member) current
      have deeper := nesting_cons node ancestors
      rw [recurse_eq]
      rcases visit_declaration_cases options found node (nesting ancestors) with
        ⟨silent, visited⟩ | ⟨declaring, deep, visited⟩ | ⟨declaring, shallow, entity, rule, visited⟩
      · simp only [visited, occurrences_eq]
        refine passes_trans options found _ _ [(ancestors, node)] _
          (passes_visit options found _ _ ?_ ?_) (children _ (by simp [deeper, silent]) _)
        · simp [passNode, silent]
        · simp [locate?, reported, silent]
      · simp only [visited]
        exact passes_left_out options ancestors node inside declaring deep found
      · simp only [visited, occurrences_eq]
        have notDeclarator : node.kind ≠ .declarator := by
          intro declarator
          simp [declares, declarator] at declaring
        refine passes_trans options found _ _ [(ancestors, node)] _
          (passes_visit options found _ _ ?_ ?_) (children _ (by simp [deeper, declaring]) _)
        · simp [passNode, notDeclarator, declaring]
        · simp [locate?, reported, declaring, shallow, rule]

/-- The entities of a tree, without the traversal. -/
theorem entities_located (options : AnalysisOptions) (root : Node)
    (inside : Throughout ValueInside root) :
    entities options root = (located options none (occurrences [] root)).map Prod.fst := by
  have whole := (recurse_passes options [] root inside {}).added
  rw [entities, walk_exact]
  simpa [nesting] using whole

end SourceAtlas.Outline
