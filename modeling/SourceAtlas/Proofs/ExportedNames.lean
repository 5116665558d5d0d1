import SourceAtlas.Outline.Modules
import SourceAtlas.Proofs.Extraction
import SourceAtlas.Proofs.Outermost
import SourceAtlas.TypeScript.Program

/-!
Names of exported declarations. By rule an export offers the name of its declaration or, where that
has none, the names of the outermost named declarations and variables inside it. Only the variables
are looked for. So an export follows the rule where it offers nothing but variables, and a
declaration without a variable in it is lost.
-/

open SourceAtlas.Tree

namespace SourceAtlas.Outline

def isExport (node : Node) : Bool :=
  node.kind == .exportDecl

def isVariable (node : Node) : Bool :=
  node.kind == .declarator

/-- A declaration or a variable, with a name. -/
def offers (node : Node) : Bool :=
  (declares node || isVariable node) && (node.fieldText? .name).isSome

def namesIn (nodes : List Node) : List String :=
  nodes.filterMap (·.fieldText? .name)

def ruledNames (declaration : Node) : List String :=
  match declaration.fieldText? .name with
  | some name => [name]
  | none => namesIn (outermost offers declaration)

theorem names_length (nodes : List Node)
    (named : ∀ node ∈ nodes, (node.fieldText? .name).isSome = true) :
    (namesIn nodes).length = nodes.length := by
  rw [namesIn, List.length_filterMap_eq_countP, List.countP_eq_length]
  exact named

theorem offers_named (root node : Node) (member : node ∈ outermost offers root) :
    (node.fieldText? .name).isSome = true :=
  (Bool.and_eq_true_iff.mp (outermost_member offers root node member).1).2

theorem exports_outermost (root : Node) :
    exports root = (outermost isExport root).flatMap exportedNames := by
  rw [exports, show visitExport = gather isExport exportedNames from rfl, walk_gathers,
    List.nil_append]

theorem exported_own_name (node declaration : Node) (name : String)
    (declared : node.field? .declaration = some declaration)
    (named : declaration.fieldText? .name = some name) : exportedNames node = [name] := by
  simp [exportedNames, declared, named]

theorem exported_variables (node declaration : Node)
    (declared : node.field? .declaration = some declaration)
    (nameless : declaration.fieldText? .name = none) :
    exportedNames node = namesIn (outermost isVariable declaration) := by
  have gathers : visitDeclarator = gather isVariable fun inner =>
    (inner.fieldText? .name).toList := rfl
  rw [namesIn, List.filterMap_eq_flatMap_toList]
  simp only [exportedNames, declared, nameless]
  rw [gathers, walk_gathers, List.nil_append]

/-! Where the outermost variables are named, each of them lies in something that is offered. -/

section Named

variable (declaration : Node)
  (named : ∀ inner ∈ outermost isVariable declaration, (inner.fieldText? .name).isSome = true)

include named

theorem offers_outermost :
    outermost offers declaration =
      outermost (fun inner => offers inner || isVariable inner) declaration := by
  apply outermost_all_narrow
  · intro inner passes
    simp [passes]
  · intro inner member
    have passes := (outermost_member _ declaration inner member).1
    by_cases isNamed : offers inner = true
    · exact isNamed
    · have variableNode : isVariable inner = true := by simpa [isNamed] using passes
      have reached := outermost_narrow isVariable _ (fun node held => by simp [held]) declaration
        inner member variableNode
      simp [offers, variableNode, named inner reached]

theorem variables_in_offers :
    outermost isVariable declaration =
      (outermost offers declaration).flatMap (outermost isVariable) := by
  rw [offers_outermost declaration named]
  exact outermost_refine isVariable _ (fun inner held => by simp [held]) declaration

/-- Where what is offered has no variables inside, the variables are what is offered less the
declarations. -/
theorem variables_offered
    (plain : ∀ inner ∈ outermost offers declaration, isVariable inner = false →
      outermost isVariable inner = []) :
    outermost isVariable declaration = (outermost offers declaration).filter isVariable := by
  have each : ∀ inner ∈ outermost offers declaration, outermost isVariable inner =
      (Option.guard isVariable inner).toList := by
    intro inner member
    cases variableNode : isVariable inner with
    | true => simp [outermost_pass isVariable inner variableNode, Option.guard, variableNode]
    | false => simp [plain inner member variableNode, Option.guard, variableNode]
  rw [variables_in_offers declaration named, List.flatMap_congr each,
    ← List.filterMap_eq_flatMap_toList, List.filterMap_eq_filter]

end Named

/-- An export whose declaration has no name looks at the nodes that the rule asks for exactly where
all of them are variables and every outermost variable has a name. -/
theorem variables_offered_iff (declaration : Node) :
    outermost isVariable declaration = outermost offers declaration ↔
      (∀ inner ∈ outermost offers declaration, isVariable inner = true) ∧
        ∀ inner ∈ outermost isVariable declaration, (inner.fieldText? .name).isSome = true := by
  constructor
  · intro same
    constructor
    · intro inner member
      rw [← same] at member
      exact (outermost_member _ declaration inner member).1
    · intro inner member
      rw [same] at member
      exact offers_named declaration inner member
  · rintro ⟨every, named⟩
    rw [variables_offered declaration named]
    · exact List.filter_eq_self.mpr every
    · intro inner member other
      rw [every inner member] at other
      cases other

theorem names_kept_iff (nodes : List Node)
    (named : ∀ node ∈ nodes, (node.fieldText? .name).isSome = true) (kept : Node → Bool) :
    namesIn (nodes.filter kept) = namesIn nodes ↔ ∀ node ∈ nodes, kept node = true := by
  constructor
  · intro same
    have lengths := congrArg List.length same
    rw [names_length nodes named,
      names_length _ fun node member => named node (List.mem_filter.mp member).1] at lengths
    exact List.length_filter_eq_length_iff.mp lengths
  · intro every
    rw [List.filter_eq_self.mpr every]

/-- The list of exports joins what the outermost exports offer. The name of a declaration stands for
it. Without one its variables are listed, and nothing else that the rule asks for: where what is
offered has no variables inside, exactly the declarations are lost. -/
theorem exports_list_variables (root : Node) :
    exports root = (outermost isExport root).flatMap exportedNames ∧
    ∀ node ∈ outermost isExport root, ∀ declaration,
      node.field? .declaration = some declaration →
      (∀ name, declaration.fieldText? .name = some name →
        exportedNames node = [name] ∧ ruledNames declaration = [name]) ∧
      (declaration.fieldText? .name = none →
        exportedNames node = namesIn (outermost isVariable declaration) ∧
        ruledNames declaration = namesIn (outermost offers declaration) ∧
        (outermost isVariable declaration = outermost offers declaration ↔
          (∀ inner ∈ outermost offers declaration, isVariable inner = true) ∧
            ∀ inner ∈ outermost isVariable declaration,
              (inner.fieldText? .name).isSome = true) ∧
        ((∀ inner ∈ outermost isVariable declaration, (inner.fieldText? .name).isSome = true) →
          (∀ inner ∈ outermost offers declaration, isVariable inner = false →
            outermost isVariable inner = []) →
          exportedNames node = namesIn ((outermost offers declaration).filter isVariable) ∧
          (exportedNames node = ruledNames declaration ↔
            ∀ inner ∈ outermost offers declaration, isVariable inner = true))) := by
  refine ⟨exports_outermost root, ?_⟩
  intro node _ declaration declared
  constructor
  · intro name named
    exact ⟨exported_own_name node declaration name declared named, by simp [ruledNames, named]⟩
  · intro nameless
    have listed := exported_variables node declaration declared nameless
    have asked : ruledNames declaration = namesIn (outermost offers declaration) := by
      simp [ruledNames, nameless]
    refine ⟨listed, asked, variables_offered_iff declaration, ?_⟩
    intro named plain
    have kept : exportedNames node = namesIn ((outermost offers declaration).filter isVariable) := by
      rw [listed, variables_offered declaration named plain]
    refine ⟨kept, ?_⟩
    rw [kept, asked]
    exact names_kept_iff _ (offers_named declaration) isVariable

/-- A declaration without a name of its own, which holds a class and two variables. -/
def unnamedDeclaration : Node :=
  let node (kind : Kind) (fields : List (Field × Node)) (children : List Node) : Node :=
    { mark := 0, kind, text := "", position := .start, fields, children }
  let named (kind : Kind) (text : String) : Node :=
    let name : Node := { node .identifier [] [] with text }
    node kind [(.name, name)] [name]
  node .other [] [named .classDecl "Foo", named .declarator "a", named .declarator "b"]

def unnamedExport : Node :=
  { mark := 0, kind := .exportDecl, text := "", position := .start
    fields := [(.declaration, unnamedDeclaration)], children := [unnamedDeclaration] }

theorem unnamed_export_outermost : unnamedExport ∈ outermost isExport unnamedExport := by
  rw [outermost_pass isExport unnamedExport rfl]
  exact List.mem_cons_self

theorem exports_list_variables_unnamed :
    exports unnamedExport = ["a", "b"] ∧
      ruledNames unnamedDeclaration = ["Foo", "a", "b"] ∧
      exportedNames unnamedExport =
        namesIn ((outermost offers unnamedDeclaration).filter isVariable) ∧
      (exportedNames unnamedExport = ruledNames unnamedDeclaration ↔
        ∀ inner ∈ outermost offers unnamedDeclaration, isVariable inner = true) := by
  refine ⟨by decide +kernel, by decide +kernel, ?_⟩
  obtain ⟨_, _, _, kept⟩ := ((exports_list_variables unnamedExport).2 unnamedExport
    unnamed_export_outermost unnamedDeclaration rfl).2 rfl
  exact kept (by decide +kernel) (by decide +kernel)

def ambientClass : String := "export declare class Foo \x7b\n  bar: number;\n\x7d\n"

/-- The class of an ambient declaration is exported by rule, and is missing from the exports. -/
theorem ambient_class_lost :
    exports (TypeScript.parse .typescript ambientClass) = [] ∧
      (outermost isExport (TypeScript.parse .typescript ambientClass)).map
        (fun node => (node.field? .declaration).map ruledNames) = [some ["Foo"]] ∧
      ¬ ∀ root, ∀ node ∈ outermost isExport root, ∀ declaration,
        node.field? .declaration = some declaration →
          exportedNames node = ruledNames declaration := by
  refine ⟨by decide +kernel, by decide +kernel, ?_⟩
  intro follows
  have same := follows unnamedExport unnamedExport unnamed_export_outermost unnamedDeclaration rfl
  revert same
  decide +kernel

end SourceAtlas.Outline
