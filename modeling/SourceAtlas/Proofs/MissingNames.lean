import SourceAtlas.Proofs.VariableNames

/-!
Entities without a name. A declaration whose own name is missing or blank is called `Unknown`, but a
nameless class takes the name of its variable as it is written. So the name of an entity is empty
only where a variable's identifier has no text, and there it is empty when the class is bound
directly.
-/

open SourceAtlas.Tree

namespace SourceAtlas.Outline

/-- The declarator binds a nameless class, and its identifier has no text. -/
def MissingVariable (declarator : Node) : Prop :=
  ∃ value variableName, declarator.kind = .declarator ∧ declarator.field? .value = some value ∧
    value.kind = .classDecl ∧ value.field? .name = none ∧
    declarator.field? .name = some variableName ∧ variableName.kind = .identifier ∧
    variableName.text = ""

theorem missing_variable_iff (declarator : Node) :
    MissingVariable declarator ↔
      declarator.kind = .declarator ∧ boundName? declarator = some "" := by
  constructor
  · rintro ⟨value, variableName, isDeclarator, valued, isClass, nameless, named, plain, text⟩
    refine ⟨isDeclarator, ?_⟩
    simp [boundName?, valued, named, isClass, nameless, plain, text]
  · rintro ⟨isDeclarator, bound⟩
    obtain ⟨value, valued, isClass, nameless, variableName, named, plain, text⟩ :=
      bound_value declarator "" bound
    exact ⟨value, variableName, isDeclarator, valued, isClass, nameless, named, plain, text⟩

/-! Where no variable is missing. -/

/-- All names so far are written, that of the next nameless class included. -/
structure Found.Written (found : Found) : Prop where
  binding : found.binding ≠ some ""
  entities : ∀ entity ∈ found.entities, entity.name ≠ ""

theorem visit_declaration_written (options : AnalysisOptions) (found : Found) (node : Node)
    (depth : Nat) (present : ¬ MissingVariable node) (written : found.Written) :
    (visitDeclaration options found node depth).2.Written := by
  rcases visit_declaration_cases options found node depth with
    ⟨_, visited⟩ | ⟨_, _, visited⟩ | ⟨_, _, entity, rule, visited⟩
  · rw [visited]
    refine ⟨?_, written.entities⟩
    by_cases isDeclarator : node.kind = .declarator
    · simp only [isDeclarator, if_true]
      intro empty
      exact present ((missing_variable_iff node).mpr ⟨isDeclarator, empty⟩)
    · simp only [isDeclarator, if_false]
      exact written.binding
  · rw [visited]
    exact ⟨nofun, written.entities⟩
  · rw [visited]
    refine ⟨nofun, List.forall_mem_append.mpr ⟨written.entities, ?_⟩⟩
    rw [List.forall_mem_singleton]
    cases bound : found.binding with
    | none =>
        rw [Option.getD_none, declaration_name options node entity rule]
        exact own_name_nonempty node
    | some name =>
        rintro rfl
        exact written.binding bound

theorem names_written (options : AnalysisOptions) (root : Node)
    (present : Throughout (fun node => ¬ MissingVariable node) root) :
    ∀ entity ∈ entities options root, entity.name ≠ "" := by
  have written := walk_keeps (Throughout fun node => ¬ MissingVariable node)
    (fun node everywhere => ((throughout_iff _ node).mp everywhere).2) Found.Written
    (visitDeclaration options)
    (fun found node depth everywhere => visit_declaration_written options found node depth
      ((throughout_iff _ node).mp everywhere).1)
    {} root present ⟨nofun, nofun⟩
  exact written.entities

/-! Where one is. -/

/-- The name of a variable is in the slot when the class that it binds directly is reached. -/
theorem value_reached_bound (ancestors : List Node) (declarator value : Node) (name : String)
    (slot : Option String) (isDeclarator : declarator.kind = .declarator)
    (valued : declarator.field? .value = some value) (bound : boundName? declarator = some name)
    (here : ValueInside declarator) (direct : BindsDirectly declarator) :
    (some name, (declarator :: ancestors, value)) ∈
      slotted slot (occurrences ancestors declarator) := by
  obtain ⟨before, after, split⟩ := List.append_of_mem (here isDeclarator value valued)
  have silent := direct isDeclarator (by simp [bound]) value before after valued split
  have filled : passNode slot declarator = some name := by simp [passNode, isDeclarator, bound]
  have kept := pass_quiet (some name) _ (silent_quiet (declarator :: ancestors) before silent)
  rw [occurrences_eq, slotted, filled, split, occurrences_all_append, slotted_append, kept,
    occurrencesAll, slotted_append, occurrences_eq]
  simp [slotted]

theorem bound_class_reported (options : AnalysisOptions) (root declarator value : Node)
    (ancestors : List Node) (name : String) (inside : Throughout ValueInside root)
    (member : (ancestors, declarator) ∈ occurrences [] root)
    (isDeclarator : declarator.kind = .declarator)
    (valued : declarator.field? .value = some value) (bound : boundName? declarator = some name)
    (direct : BindsDirectly declarator) (shallow : nesting ancestors < options.maxDepth) :
    ∃ entity ∈ entities options root, entity.name = name ∧ Describes options entity value := by
  obtain ⟨other, otherValued, isClass, _⟩ := bound_value declarator name bound
  have same : other = value := Option.some.inj (otherValued.symm.trans valued)
  subst same
  obtain ⟨slot, passed⟩ := slotted_below [] root none _ member
  have reached := passed _ (value_reached_bound ancestors declarator other name slot isDeclarator
    valued bound (inside _ member) direct)
  obtain ⟨entity, rule, made⟩ := value_located options declarator other ancestors (some name)
    isDeclarator isClass shallow
  refine ⟨{ entity with name }, ?_, rfl, declaration_describes options other entity rule name⟩
  rw [entities_located options root inside]
  exact List.mem_map.mpr ⟨_, List.mem_filterMap.mpr ⟨_, reached, made⟩, rfl⟩

/-- Names are written in every tree in which no variable is missing. A missing variable that binds
its class directly leaves the class without a name. -/
theorem names_empty_from_variables (options : AnalysisOptions) (root : Node) :
    (Throughout (fun node => ¬ MissingVariable node) root →
      ∀ entity ∈ entities options root, entity.name ≠ "") ∧
    (Throughout FieldsInside root → ∀ ancestors declarator,
      (ancestors, declarator) ∈ occurrences [] root → nesting ancestors < options.maxDepth →
        MissingVariable declarator → BindsDirectly declarator →
          ∃ entity ∈ entities options root, entity.name = "" ∧ ∃ value,
            declarator.field? .value = some value ∧ Describes options entity value) := by
  refine ⟨names_written options root, ?_⟩
  intro inside ancestors declarator member shallow missing direct
  obtain ⟨isDeclarator, bound⟩ := (missing_variable_iff declarator).mp missing
  obtain ⟨value, valued, _⟩ := bound_value declarator "" bound
  obtain ⟨entity, listed, empty, described⟩ := bound_class_reported options root declarator value
    ancestors "" (fields_values root inside) member isDeclarator valued bound direct shallow
  exact ⟨entity, listed, empty, value, valued, described⟩

/-- A nameless class bound to a variable whose identifier was left out. -/
def unnamedVariable : Node :=
  let variableName := leaf .identifier ""
  { mark := 1, kind := .declarator, text := "", position := .start
    fields := [(.name, variableName), (.value, namelessClass)]
    children := [variableName, namelessClass] }

theorem unnamed_variable_missing : MissingVariable unnamedVariable :=
  ⟨namelessClass, leaf .identifier "", rfl, rfl, rfl, rfl, rfl, rfl, rfl⟩

theorem unnamed_variable_inside : Throughout FieldsInside unnamedVariable := by
  rw [throughout_iff]
  refine ⟨listed_inside _ (by simp [unnamedVariable]), ?_⟩
  simp [unnamedVariable, leaf_inside, namelessClass]

theorem unnamed_variable_direct : BindsDirectly unnamedVariable := by
  intro _ _ value before after _ split node member
  have isName : node = leaf .identifier "" := by
    rcases before with _ | ⟨first, _ | ⟨second, rest⟩⟩ <;> simp_all [unnamedVariable]
  rw [isName]
  exact (leaf_throughout _ _ _).mpr (by decide)

theorem names_empty_from_variables_unnamed :
    MissingVariable unnamedVariable ∧
      (∃ entity ∈ entities {} unnamedVariable, entity.name = "" ∧ ∃ value,
        unnamedVariable.field? .value = some value ∧ Describes {} entity value) ∧
      ∀ entity ∈ entities {} (boundVariable (leaf .other ": Base")), entity.name ≠ "" := by
  have occurs : ([], unnamedVariable) ∈ occurrences [] unnamedVariable := by
    rw [occurrences_eq]
    exact List.mem_cons_self
  have present : Throughout (fun node => ¬ MissingVariable node)
      (boundVariable (leaf .other ": Base")) := by
    have leaves : ∀ kind text, kind ≠ .declarator →
        Throughout (fun node => ¬ MissingVariable node) (leaf kind text) := by
      intro kind text other
      rw [leaf_throughout, missing_variable_iff]
      exact fun missing => other missing.1
    rw [throughout_iff, missing_variable_iff]
    refine ⟨by decide, ?_⟩
    simp [boundVariable, namelessClass, leaves]
  exact ⟨unnamed_variable_missing,
    (names_empty_from_variables {} unnamedVariable).2 unnamed_variable_inside [] unnamedVariable
      occurs (by decide) unnamed_variable_missing unnamed_variable_direct,
    (names_empty_from_variables {} (boundVariable (leaf .other ": Base"))).1 present⟩

theorem unnamed_variable_unwritten :
    (entities {} unnamedVariable).map (·.name) = [""] ∧
      ¬ ∀ options root, ∀ entity ∈ entities options root, entity.name ≠ "" := by
  have names : (entities {} unnamedVariable).map (·.name) = [""] := by decide +kernel
  refine ⟨names, ?_⟩
  intro written
  have listed : "" ∈ (entities {} unnamedVariable).map (·.name) := names ▸ List.mem_cons_self
  obtain ⟨entity, member, empty⟩ := List.mem_map.mp listed
  exact written {} unnamedVariable entity member empty

end SourceAtlas.Outline
