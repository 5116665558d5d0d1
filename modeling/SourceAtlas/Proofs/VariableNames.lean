import Mathlib.Data.List.Forall2
import SourceAtlas.Proofs.VariableSlot

/-!
Names of declarations. By rule a nameless class that is the value of a variable has the variable's
name, and every other declaration has its own. The traversal hands the name of a variable to the
next declaration that it meets, so the rule is kept exactly where nothing is declared between a
variable and the class bound to it. Where something is, it takes the name in the class's stead.
-/

namespace SourceAtlas.Tree

theorem occurrences_all_append (ancestors first second : List Node) :
    occurrencesAll ancestors (first ++ second) =
      occurrencesAll ancestors first ++ occurrencesAll ancestors second := by
  simp only [occurrences_all_flat, List.flatMap_append]

/-- What lies below an occurrence is passed without a break. -/
theorem occurrences_unbroken (above : List Node) (root : Node) (occurrence : Occurrence)
    (member : occurrence ∈ occurrences above root) :
    occurrences occurrence.1 occurrence.2 <:+: occurrences above root := by
  induction root using Node.child_induction generalizing above with
  | step root ih =>
      rw [occurrences_eq, occurrences_all_flat] at member
      rcases List.mem_cons.mp member with same | below
      · subst same
        exact List.infix_rfl
      · obtain ⟨child, childMember, inside⟩ := List.mem_flatMap.mp below
        have inChild := ih child childMember (root :: above) inside
        have inChildren : occurrences (root :: above) child <:+:
            root.children.flatMap (occurrences (root :: above)) :=
          List.infix_of_mem_flatten (List.mem_map_of_mem childMember)
        rw [occurrences_eq above root, occurrences_all_flat]
        exact (inChild.trans inChildren).trans (List.suffix_cons _ _).isInfix

end SourceAtlas.Tree

open SourceAtlas.Tree

namespace SourceAtlas.Outline

/-! The rule, without regard to any traversal. -/

/-- The node is a nameless class and the value of the declarator right above it, which gives the
name to its variable. -/
def BoundTo (occurrence : Occurrence) (name : String) : Prop :=
  ∃ declarator above variableName, occurrence.1 = declarator :: above ∧
    declarator.kind = .declarator ∧ declarator.field? .value = some occurrence.2 ∧
    occurrence.2.kind = .classDecl ∧ occurrence.2.field? .name = none ∧
    declarator.field? .name = some variableName ∧ variableName.kind = .identifier ∧
    variableName.text = name

/-- The name that stands in a declaration itself. -/
def ownName (node : Node) : String :=
  (((node.fieldText? .name).map Text.trim).filter fun name => name ≠ "").getD "Unknown"

structure NamedByRule (entity : Entity) (occurrence : Occurrence) : Prop where
  bound : ∀ name, BoundTo occurrence name → entity.name = name
  own : (∀ name, ¬ BoundTo occurrence name) → entity.name = ownName occurrence.2
  signature : entity.kind = .function →
    ∃ method, entity.methods = [method] ∧ method.name = entity.name

/-- Every entity that is reported has the name that the rule gives to its occurrence. -/
def WellNamed (options : AnalysisOptions) (root : Node) : Prop :=
  List.Forall₂ NamedByRule (entities options root) ((occurrences [] root).filter (reported options))

/-- What stands under a field stands among the children. -/
def FieldsInside (node : Node) : Prop :=
  ∀ field target, node.field? field = some target → target ∈ node.children

/-- Nothing in the tree declares anything, a variable included. -/
def Silent (root : Node) : Prop :=
  Throughout (fun node => quiet node = true) root

/-- Nothing is declared between a declarator and the class that it binds. -/
def BindsDirectly (declarator : Node) : Prop :=
  declarator.kind = .declarator → boundName? declarator ≠ none →
    ∀ value before after, declarator.field? .value = some value →
      declarator.children = before ++ value :: after → ∀ node ∈ before, Silent node

theorem bound_to_iff (declarator node : Node) (above : List Node) (name : String) :
    BoundTo (declarator :: above, node) name ↔
      declarator.kind = .declarator ∧ declarator.field? .value = some node ∧
        boundName? declarator = some name := by
  constructor
  · rintro ⟨_, _, variableName, same, isDeclarator, value, isClass, nameless, named, plain, text⟩
    cases same
    refine ⟨isDeclarator, value, ?_⟩
    simp only at value isClass nameless
    simp [boundName?, value, named, isClass, nameless, plain, text]
  · rintro ⟨isDeclarator, value, bound⟩
    obtain ⟨other, otherValue, isClass, nameless, variableName, named, plain, text⟩ :=
      bound_value declarator name bound
    have same : other = node := Option.some.inj (otherValue.symm.trans value)
    subst same
    exact ⟨declarator, above, variableName, rfl, isDeclarator, value, isClass, nameless, named,
      plain, text⟩

theorem bound_to_class (occurrence : Occurrence) (name : String) (bound : BoundTo occurrence name) :
    declares occurrence.2 = true := by
  obtain ⟨_, _, _, _, _, _, isClass, _⟩ := bound
  simp [declares, isClass]

theorem name_of_own (node : Node) : nameOf node = ownName node := by
  unfold nameOf ownName
  cases node.fieldText? .name with
  | none => rfl
  | some text =>
      by_cases blank : Text.trim text = ""
      · simp [blank, Text.unknownName, Option.filter_some]
      · simp [blank, Option.filter_some]

theorem own_name_nonempty (node : Node) : ownName node ≠ "" := by
  unfold ownName
  cases written : ((node.fieldText? .name).map Text.trim).filter fun name => name ≠ "" with
  | none => decide
  | some name => simpa using (Option.filter_eq_some_iff.mp written).2

theorem heading_name (kind : EntityKind) (node : Node) :
    (heading kind node).name = ownName node := by
  have nonempty := own_name_nonempty node
  simp [heading, Entity.named, name_of_own, nonempty]

theorem declaration_name (options : AnalysisOptions) (node : Node) (entity : Entity)
    (found : declaration? options node = some entity) : entity.name = ownName node := by
  unfold declaration? at found
  split at found <;> cases found
  case h_1 => exact heading_name .objectClass node
  case h_2 => exact heading_name .interface node
  case h_3 => exact heading_name .function node
  case h_4 => exact heading_name .enumeration node

theorem declaration_signature (options : AnalysisOptions) (node : Node) (entity : Entity)
    (found : declaration? options node = some entity) (isFunction : entity.kind = .function) :
    ∃ method, entity.methods = [method] ∧ method.name = ownName node := by
  unfold declaration? at found
  split at found <;> cases found
  case h_3 => exact ⟨_, rfl, heading_name .function node⟩
  all_goals cases isFunction

/-- A function is never bound. -/
theorem function_unbound (options : AnalysisOptions) (occurrence : Occurrence) (entity : Entity)
    (found : declaration? options occurrence.2 = some entity) (isFunction : entity.kind = .function)
    (name : String) : ¬ BoundTo occurrence name := by
  rintro ⟨_, _, _, _, _, _, isClass, _⟩
  simp only [declaration?, isClass, Option.some.injEq] at found
  subst found
  cases isFunction

/-! The slot. It keeps to the rule at an occurrence when it holds the name that the rule gives. -/

def Matches (slot : Option String) (occurrence : Occurrence) : Prop :=
  ∀ name, slot = some name ↔ BoundTo occurrence name

theorem matches_none (occurrence : Occurrence) (unbound : ∀ name, ¬ BoundTo occurrence name) :
    Matches none occurrence := by
  intro name
  simp [unbound name]

theorem matches_silent (slot : Option String) (occurrence : Occurrence)
    (agrees : Matches slot occurrence) (silent : declares occurrence.2 = false) : slot = none := by
  cases slot with
  | none => rfl
  | some name =>
      have declaring := bound_to_class occurrence name ((agrees name).mp rfl)
      rw [silent] at declaring
      cases declaring

theorem matches_named (options : AnalysisOptions) (slot : Option String) (occurrence : Occurrence)
    (agrees : Matches slot occurrence) (found : Entity × Occurrence)
    (made : locate? options (slot, occurrence) = some found) : NamedByRule found.1 found.2 := by
  unfold locate? at made
  split at made
  · obtain ⟨entity, rule, same⟩ := Option.map_eq_some_iff.mp made
    subst same
    refine ⟨?bound, ?own, ?signature⟩
    case bound =>
      intro name bound
      simp [(agrees name).mpr bound]
    case own =>
      intro unbound
      have empty : slot = none :=
        Option.eq_none_iff_forall_ne_some.mpr fun name held => unbound name ((agrees name).mp held)
      simpa [empty] using declaration_name options occurrence.2 entity rule
    case signature =>
      intro isFunction
      have empty : slot = none := Option.eq_none_iff_forall_ne_some.mpr fun name held =>
        function_unbound options occurrence entity rule isFunction name ((agrees name).mp held)
      obtain ⟨method, only, named⟩ :=
        declaration_signature options occurrence.2 entity rule isFunction
      refine ⟨method, only, ?_⟩
      simp [empty, named, declaration_name options occurrence.2 entity rule]
  · cases made

theorem well_named_iff (options : AnalysisOptions) (root : Node)
    (inside : Throughout ValueInside root) :
    WellNamed options root ↔ ∀ found ∈ located options none (occurrences [] root),
      NamedByRule found.1 found.2 := by
  rw [WellNamed, entities_located options root inside, ← located_occurrences options none,
    List.forall₂_map_left_iff, List.forall₂_map_right_iff, List.forall₂_same]

/-- The slot keeps to the rule at every declaration that is passed. -/
def Follows (reached : List (Option String × Occurrence)) : Prop :=
  ∀ place ∈ reached, declares place.2.2 = true → Matches place.1 place.2

theorem follows_append (first second : List (Option String × Occurrence)) :
    Follows (first ++ second) ↔ Follows first ∧ Follows second :=
  List.forall_mem_append

theorem slot_behind_match (ancestors : List Node) (node : Node) (slot : Option String)
    (inside : Throughout ValueInside node) (agrees : Matches slot (ancestors, node)) :
    passAll slot (occurrences ancestors node) = none := by
  rw [slot_behind ancestors node inside]
  split
  · rename_i allQuiet
    have silent := List.all_eq_true.mp allQuiet (ancestors, node)
      (by rw [occurrences_eq]; exact List.mem_cons_self)
    exact matches_silent slot (ancestors, node) agrees (by simp_all [quiet])
  · rfl

/-- Below a node that binds nothing, the slot stays empty between the children. -/
theorem follows_unbound (ancestors nodes : List Node)
    (inside : ∀ node ∈ nodes, Throughout ValueInside node)
    (unbound : ∀ node ∈ nodes, ∀ name, ¬ BoundTo (ancestors, node) name)
    (below : ∀ node ∈ nodes, ∀ slot, Matches slot (ancestors, node) →
      Follows (slotted slot (occurrences ancestors node))) :
    Follows (slotted none (occurrencesAll ancestors nodes)) := by
  induction nodes with
  | nil =>
      rw [occurrencesAll]
      intro place member
      cases member
  | cons node rest ih =>
      have agrees := matches_none (ancestors, node) (unbound node List.mem_cons_self)
      rw [occurrencesAll, slotted_append, follows_append,
        slot_behind_match ancestors node none (inside node List.mem_cons_self) agrees]
      exact ⟨below node List.mem_cons_self none agrees,
        ih (fun later member => inside later (List.mem_cons_of_mem node member))
          (fun later member => unbound later (List.mem_cons_of_mem node member))
          (fun later member => below later (List.mem_cons_of_mem node member))⟩

theorem silent_quiet (ancestors nodes : List Node) (silent : ∀ node ∈ nodes, Silent node) :
    ∀ occurrence ∈ occurrencesAll ancestors nodes, quiet occurrence.2 = true := by
  intro occurrence member
  rw [occurrences_all_flat] at member
  obtain ⟨node, nodeMember, inside⟩ := List.mem_flatMap.mp member
  exact (throughout_at _ ancestors node).mp (silent node nodeMember) occurrence inside

theorem pass_quiet (slot : Option String) (passed : List Occurrence)
    (silent : ∀ occurrence ∈ passed, quiet occurrence.2 = true) : passAll slot passed = slot := by
  induction passed with
  | nil => rfl
  | cons occurrence rest ih =>
      have here := silent occurrence List.mem_cons_self
      have kept : passNode slot occurrence.2 = slot := by
        simp only [quiet, Bool.and_eq_true, Bool.not_eq_true', bne_iff_ne] at here
        simp [passNode, here]
      have others := ih fun later member => silent later (List.mem_cons_of_mem occurrence member)
      rw [passAll, List.foldl_cons, kept]
      exact others

theorem follows_quiet (slot : Option String) (passed : List Occurrence)
    (silent : ∀ occurrence ∈ passed, quiet occurrence.2 = true) :
    Follows (slotted slot passed) := by
  intro place member declaring
  have passedHere : place.2 ∈ passed :=
    slotted_occurrences slot passed ▸ List.mem_map_of_mem member
  have still := silent place.2 passedHere
  simp [quiet, declaring] at still

/-- The children of a declarator that binds directly: those before the value are silent, the value
takes the name, and none behind it is the value again. -/
theorem follows_bound (ancestors : List Node) (declarator : Node) (name : String)
    (isDeclarator : declarator.kind = .declarator) (bound : boundName? declarator = some name)
    (direct : BindsDirectly declarator) (here : ValueInside declarator)
    (inside : ∀ node ∈ declarator.children, Throughout ValueInside node)
    (below : ∀ node ∈ declarator.children, ∀ slot,
      Matches slot (declarator :: ancestors, node) →
        Follows (slotted slot (occurrences (declarator :: ancestors) node))) :
    Follows (slotted (some name)
      (occurrencesAll (declarator :: ancestors) declarator.children)) := by
  obtain ⟨value, field, isClass, _⟩ := bound_value declarator name bound
  obtain ⟨before, after, split⟩ := List.append_of_mem (here isDeclarator value field)
  have first := direct isDeclarator (by simp [bound]) value before after field split
  have last : ∀ node ∈ after, ∀ other, ¬ BoundTo (declarator :: ancestors, node) other := by
    intro node member other boundAgain
    obtain ⟨_, sameField, _⟩ := (bound_to_iff declarator node ancestors other).mp boundAgain
    have same : value = node := Option.some.inj (field.symm.trans sameField)
    subst same
    obtain ⟨between, behind, again⟩ := List.append_of_mem member
    have early := direct isDeclarator (by simp [bound]) value (before ++ value :: between) behind
      field (by rw [split, again]; simp) value (by simp)
    have quietValue := ((throughout_iff _ _).mp early).1
    simp [quiet, declares, isClass] at quietValue
  have agrees : Matches (some name) (declarator :: ancestors, value) := by
    intro other
    simp [bound_to_iff, isDeclarator, field, bound]
  have quietBefore := silent_quiet (declarator :: ancestors) before first
  have insideValue := inside value (by simp [split])
  rw [split, occurrences_all_append, slotted_append, follows_append, occurrencesAll, slotted_append,
    follows_append, pass_quiet _ _ quietBefore,
    slot_behind_match _ value (some name) insideValue agrees]
  refine ⟨follows_quiet _ _ quietBefore, below value (by simp [split]) _ agrees, ?_⟩
  exact follows_unbound _ after (fun node member => inside node (by simp [split, member])) last
    (fun node member => below node (by simp [split, member]))

theorem slots_follow (ancestors : List Node) (node : Node) (slot : Option String)
    (inside : Throughout ValueInside node) (direct : Throughout BindsDirectly node)
    (agrees : Matches slot (ancestors, node)) :
    Follows (slotted slot (occurrences ancestors node)) := by
  induction node using Node.child_induction generalizing ancestors slot with
  | step node ih =>
      obtain ⟨here, insideBelow⟩ := (throughout_iff _ _).mp inside
      obtain ⟨directHere, directBelow⟩ := (throughout_iff _ _).mp direct
      have below : ∀ child ∈ node.children, ∀ slot, Matches slot (node :: ancestors, child) →
          Follows (slotted slot (occurrences (node :: ancestors) child)) :=
        fun child member slot =>
          ih child member _ slot (insideBelow child member) (directBelow child member)
      have unboundBelow : (∀ name, ¬ (node.kind = .declarator ∧ boundName? node = some name)) →
          Follows (slotted none (occurrencesAll (node :: ancestors) node.children)) := by
        intro free
        apply follows_unbound (node :: ancestors) node.children insideBelow _ below
        intro child _ name bound
        obtain ⟨isDeclarator, _, held⟩ := (bound_to_iff node child ancestors name).mp bound
        exact free name ⟨isDeclarator, held⟩
      rw [occurrences_eq, slotted]
      refine List.forall_mem_cons.mpr ⟨fun _ => agrees, ?_⟩
      by_cases isDeclarator : node.kind = .declarator
      · cases bound : boundName? node with
        | none =>
            have empty : passNode slot node = none := by simp [passNode, isDeclarator, bound]
            simp only [empty]
            exact unboundBelow fun name held => by simp [bound] at held
        | some name =>
            have filled : passNode slot node = some name := by simp [passNode, isDeclarator, bound]
            simp only [filled]
            exact follows_bound ancestors node name isDeclarator bound directHere here insideBelow
              below
      · have empty : passNode slot node = none := by
          cases declaring : declares node with
          | true => simp [passNode, isDeclarator, declaring]
          | false =>
              simpa [passNode, isDeclarator, declaring] using
                matches_silent slot (ancestors, node) agrees declaring
        simp only [empty]
        exact unboundBelow fun name held => isDeclarator held.1

/-- Where every declarator binds directly, all names are those of the rule. -/
theorem direct_well_named (options : AnalysisOptions) (root : Node)
    (inside : Throughout ValueInside root) (direct : Throughout BindsDirectly root) :
    WellNamed options root := by
  rw [well_named_iff options root inside]
  intro found member
  have rootUnbound : Matches none (([] : List Node), root) := by
    apply matches_none
    rintro name ⟨_, _, _, none, _⟩
    cases none
  have follows := slots_follow [] root none inside direct rootUnbound
  obtain ⟨⟨slot, occurrence⟩, reached, made⟩ := List.mem_filterMap.mp member
  have shown : reported options occurrence = true := by
    by_contra hidden
    simp [locate?, hidden] at made
  have declaring := (Bool.and_eq_true_iff.mp shown).1
  exact matches_named options slot occurrence (follows _ reached declaring) found made

/-! The other way round. Whatever is declared in front of the value has emptied the slot before the
value is reached. -/

theorem slotted_below (above : List Node) (root : Node) (entry : Option String)
    (occurrence : Occurrence) (member : occurrence ∈ occurrences above root) :
    ∃ slot, ∀ place ∈ slotted slot (occurrences occurrence.1 occurrence.2),
      place ∈ slotted entry (occurrences above root) := by
  obtain ⟨front, back, whole⟩ := occurrences_unbroken above root occurrence member
  refine ⟨passAll entry front, ?_⟩
  intro place inside
  rw [← whole, slotted_append, slotted_append]
  exact List.mem_append_left _ (List.mem_append_right _ inside)

theorem value_reached_empty (ancestors before after : List Node) (declarator value loud : Node)
    (slot : Option String) (inside : Throughout ValueInside declarator)
    (split : declarator.children = before ++ value :: after) (member : loud ∈ before)
    (notSilent : ¬ Silent loud) :
    (none, (declarator :: ancestors, value)) ∈ slotted slot (occurrences ancestors declarator) := by
  have insideBelow := ((throughout_iff _ _).mp inside).2
  have heard : (occurrencesAll (declarator :: ancestors) before).all (quiet ·.2) = false := by
    rw [Bool.eq_false_iff]
    intro allQuiet
    apply notSilent
    rw [Silent, throughout_at _ (declarator :: ancestors)]
    intro occurrence below
    apply List.all_eq_true.mp allQuiet
    rw [occurrences_all_flat]
    exact List.mem_flatMap.mpr ⟨loud, member, below⟩
  have emptied : passAll (passNode slot declarator)
      (occurrencesAll (declarator :: ancestors) before) = none := by
    rw [slot_behind_all (declarator :: ancestors) before fun node early => slot_behind _ node
      (insideBelow node (by simp [split, early])), heard]
    rfl
  rw [occurrences_eq, slotted, split, occurrences_all_append, slotted_append, occurrencesAll,
    slotted_append, emptied, occurrences_eq]
  simp [slotted]

/-- A class that is the value of a declarator is reported where the declarator is reached. -/
theorem value_located (options : AnalysisOptions) (declarator value : Node) (ancestors : List Node)
    (slot : Option String) (isDeclarator : declarator.kind = .declarator)
    (isClass : value.kind = .classDecl) (shallow : nesting ancestors < options.maxDepth) :
    ∃ entity, declaration? options value = some entity ∧
      locate? options (slot, (declarator :: ancestors, value)) =
        some ({ entity with name := slot.getD entity.name }, (declarator :: ancestors, value)) := by
  have declaring : declares value = true := by simp [declares, isClass]
  have shown : reported options (declarator :: ancestors, value) = true := by
    have silent : declares declarator = false := by simp [declares, isDeclarator]
    simp [reported, declaring, nesting_cons, silent, shallow]
  obtain ⟨entity, rule⟩ := declaration_some options value declaring
  exact ⟨entity, rule, by simp [locate?, shown, rule]⟩

theorem indirect_misnamed (options : AnalysisOptions) (root declarator : Node)
    (ancestors : List Node) (inside : Throughout ValueInside root)
    (member : (ancestors, declarator) ∈ occurrences [] root) (indirect : ¬ BindsDirectly declarator)
    (shallow : nesting ancestors < options.maxDepth)
    (telling : boundName? declarator ≠ some "Unknown") : ¬ WellNamed options root := by
  intro wellNamed
  simp only [BindsDirectly, not_forall] at indirect
  obtain ⟨isDeclarator, isBound, value, before, after, field, split, loud, loudMember, notSilent⟩ :=
    indirect
  obtain ⟨name, bound⟩ := Option.ne_none_iff_exists'.mp isBound
  obtain ⟨other, otherField, isClass, nameless, _⟩ := bound_value declarator name bound
  have same : other = value := Option.some.inj (otherField.symm.trans field)
  subst same
  have insideHere : Throughout ValueInside declarator := by
    rw [throughout_at _ ancestors]
    intro occurrence below
    exact inside occurrence ((occurrences_unbroken [] root _ member).subset below)
  obtain ⟨slot, passed⟩ := slotted_below [] root none _ member
  have reached := passed _ (value_reached_empty ancestors before after declarator other loud slot
    insideHere split loudMember notSilent)
  obtain ⟨entity, rule, made⟩ := value_located options declarator other ancestors none isDeclarator
    isClass shallow
  have named := (well_named_iff options root inside).mp wellNamed _
    (List.mem_filterMap.mpr ⟨_, reached, made⟩)
  have variableName : entity.name = name :=
    named.bound name ((bound_to_iff _ _ _ _).mpr ⟨isDeclarator, field, bound⟩)
  have unknown : entity.name = "Unknown" := by
    rw [declaration_name options other entity rule]
    simp [ownName, Node.fieldText?, nameless]
  rw [← variableName, unknown] at bound
  exact telling bound

theorem fields_values (root : Node) (inside : Throughout FieldsInside root) :
    Throughout ValueInside root :=
  fun occurrence member _ value => inside occurrence member .value value

/-- The names of a tree are those of the rule where every declarator binds directly, and are not
where one that is reached does not, unless its variable has the name that stands for none. -/
theorem variable_names_bind_directly (options : AnalysisOptions) (root : Node)
    (inside : Throughout FieldsInside root) :
    (Throughout BindsDirectly root → WellNamed options root) ∧
    ∀ ancestors declarator, (ancestors, declarator) ∈ occurrences [] root →
      nesting ancestors < options.maxDepth → boundName? declarator ≠ some "Unknown" →
        ¬ BindsDirectly declarator → ¬ WellNamed options root := by
  have values := fields_values root inside
  refine ⟨direct_well_named options root values, ?_⟩
  intro ancestors declarator member shallow telling indirect
  exact indirect_misnamed options root declarator ancestors values member indirect shallow telling

/-! A variable `X` bound to a nameless class, with and without another class between the two. -/

def leaf (kind : Kind) (text : String) : Node :=
  { mark := 0, kind, text, position := .start, fields := [], children := [] }

def namelessClass : Node := leaf .classDecl "class {}"

def boundVariable (ascribed : Node) : Node :=
  let variableName := leaf .identifier "X"
  { mark := 1, kind := .declarator, text := "", position := .start
    fields := [(.name, variableName), (.ascription, ascribed), (.value, namelessClass)]
    children := [variableName, ascribed, namelessClass] }

/-- An annotation in which the default of a parameter is a class named `Foo`. -/
def ascribedClass : Node :=
  let className := leaf .typeName "Foo"
  { mark := 2, kind := .other, text := ": (a = class Foo {}) => void", position := .start
    fields := []
    children := [{ mark := 3, kind := .classDecl, text := "class Foo {}", position := .start
                   fields := [(.name, className)], children := [className] }] }

theorem listed_inside (node : Node) (listed : ∀ entry ∈ node.fields, entry.2 ∈ node.children) :
    FieldsInside node := by
  intro field target found
  obtain ⟨entry, first, same⟩ := Option.map_eq_some_iff.mp found
  subst same
  exact listed entry (List.mem_of_find?_eq_some first)

theorem leaf_throughout (holds : Node → Prop) (kind : Kind) (text : String) :
    Throughout holds (leaf kind text) ↔ holds (leaf kind text) := by
  rw [throughout_iff]
  simp [leaf]

theorem leaf_inside (kind : Kind) (text : String) : Throughout FieldsInside (leaf kind text) :=
  (leaf_throughout _ kind text).mpr (listed_inside _ (by simp [leaf]))

theorem bound_variable_inside (ascribed : Node) (inside : Throughout FieldsInside ascribed) :
    Throughout FieldsInside (boundVariable ascribed) := by
  rw [throughout_iff]
  refine ⟨listed_inside _ (by simp [boundVariable]), ?_⟩
  simp [boundVariable, inside, leaf_inside, namelessClass]

theorem ascribed_class_inside : Throughout FieldsInside ascribedClass := by
  rw [throughout_iff]
  refine ⟨listed_inside _ (by simp [ascribedClass]), ?_⟩
  simp only [ascribedClass, List.mem_singleton, forall_eq]
  rw [throughout_iff]
  refine ⟨listed_inside _ (by simp), ?_⟩
  simp [leaf_inside]

-- The value stands last, so only the variable's name and the annotation can stand before it.
theorem bound_variable_direct (ascribed : Node) (silent : Silent ascribed) :
    BindsDirectly (boundVariable ascribed) := by
  intro _ _ value before after _ split node member
  have early : node ∈ [leaf .identifier "X", ascribed] := by
    rcases before with _ | ⟨first, _ | ⟨second, _ | ⟨third, rest⟩⟩⟩ <;>
      simp_all [boundVariable]
  have quietName : Silent (leaf .identifier "X") := (leaf_throughout _ _ _).mpr (by decide)
  rcases List.mem_cons.mp early with isName | isAscribed
  · exact isName ▸ quietName
  · exact List.mem_singleton.mp isAscribed ▸ silent

theorem bound_variable_indirect (ascribed : Node) (loud : ¬ Silent ascribed) :
    ¬ BindsDirectly (boundVariable ascribed) := by
  intro direct
  have bound : boundName? (boundVariable ascribed) = some "X" := rfl
  exact loud (direct rfl (by simp [bound]) namelessClass [leaf .identifier "X", ascribed] [] rfl
    rfl ascribed (by simp))

theorem variable_names_bind_directly_plain :
    Throughout FieldsInside (boundVariable (leaf .other ": Base")) ∧
    Throughout BindsDirectly (boundVariable (leaf .other ": Base")) ∧
    WellNamed {} (boundVariable (leaf .other ": Base")) := by
  have inside := bound_variable_inside _ (leaf_inside .other ": Base")
  have silent : Silent (leaf .other ": Base") := (leaf_throughout _ _ _).mpr (by decide)
  have direct : Throughout BindsDirectly (boundVariable (leaf .other ": Base")) := by
    have leaves : ∀ kind text, kind ≠ .declarator → Throughout BindsDirectly (leaf kind text) :=
      fun kind text other =>
        (leaf_throughout _ _ _).mpr fun isDeclarator => absurd isDeclarator other
    rw [throughout_iff]
    refine ⟨bound_variable_direct _ silent, ?_⟩
    simp [boundVariable, namelessClass, leaves]
  exact ⟨inside, direct, (variable_names_bind_directly {} _ inside).1 direct⟩

/-- `const X: (a = class Foo {}) => void = class {}`: the class in the annotation is called `X`, and
the class that is bound to `X` has no name. -/
theorem annotated_variable_misnamed :
    Throughout FieldsInside (boundVariable ascribedClass) ∧
    (entities {} (boundVariable ascribedClass)).map (·.name) = ["X", "Unknown"] ∧
    ¬ WellNamed {} (boundVariable ascribedClass) := by
  have inside := bound_variable_inside _ ascribed_class_inside
  refine ⟨inside, by decide +kernel, ?_⟩
  have loud : ¬ Silent ascribedClass := by
    intro silent
    have still := ((throughout_iff _ _).mp (((throughout_iff _ _).mp silent).2 _
      List.mem_cons_self)).1
    revert still
    decide
  exact indirect_misnamed {} _ (boundVariable ascribedClass) [] (fields_values _ inside)
    (by rw [occurrences_eq]; exact List.mem_cons_self) (bound_variable_indirect _ loud) (by decide)
    (by decide)

end SourceAtlas.Outline
