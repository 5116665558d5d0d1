import Mathlib.Data.List.Basic
import SourceAtlas.Analyze
import SourceAtlas.Proofs.DirectMembers

/-!
Analyses without private members. Whether these are wanted is asked in one place only, where a
member has been read and is about to be listed. Two analyses that differ in this option visit the
same nodes in the same order, so one is the other with its private members left out.
-/

namespace SourceAtlas

def Entity.withoutPrivate (entity : Entity) : Entity :=
  { entity with
    properties := entity.properties.filter fun property => property.visibility ≠ .priv
    methods := entity.methods.filter fun method => method.visibility ≠ .priv }

namespace AnalysisOptions

def showingPrivate (options : AnalysisOptions) : AnalysisOptions :=
  { options with includePrivate := true }

def hidingPrivate (options : AnalysisOptions) : AnalysisOptions :=
  { options with includePrivate := false }

@[simp] theorem showing_private (options : AnalysisOptions) :
    options.showingPrivate.includePrivate = true := rfl

@[simp] theorem hiding_private (options : AnalysisOptions) :
    options.hidingPrivate.includePrivate = false := rfl

@[simp] theorem showing_depth (options : AnalysisOptions) :
    options.showingPrivate.maxDepth = options.maxDepth := rfl

@[simp] theorem hiding_depth (options : AnalysisOptions) :
    options.hidingPrivate.maxDepth = options.maxDepth := rfl

end AnalysisOptions

open SourceAtlas.Tree

namespace Outline

def Members.withoutPrivate (members : Members) : Members :=
  { members with
    properties := members.properties.filter fun property => property.visibility ≠ .priv
    methods := members.methods.filter fun method => method.visibility ≠ .priv }

theorem listed_hiding {Member : Type} (options : AnalysisOptions) (kind : Kind)
    (read : Node → Member) (visibility : Member → Visibility)
    (ruled : ∀ node, visibility (read node) = ruledVisibility node) (nodes : List Node) :
    listed options.hidingPrivate kind read nodes =
      (listed options.showingPrivate kind read nodes).filter fun member =>
        visibility member ≠ .priv := by
  rw [listed, listed, List.filter_map, List.filter_filter]
  congr 1
  apply List.filter_congr
  intro node _
  simp only [shown, AnalysisOptions.showing_private, AnalysisOptions.hiding_private,
    Function.comp_apply, ruled]
  cases ruledVisibility node <;> simp

theorem members_hiding (options : AnalysisOptions) (body : Node) :
    membersOf options.hidingPrivate body =
      (membersOf options.showingPrivate body).withoutPrivate := by
  rw [members_direct, members_direct, Members.withoutPrivate,
    listed_hiding options .property property (·.visibility) visibility_ruled,
    listed_hiding options .method method (·.visibility) visibility_ruled]

theorem classifier_hiding (kind : EntityKind) (options : AnalysisOptions) (node : Node) :
    classifier kind options.hidingPrivate node =
      (classifier kind options.showingPrivate node).withoutPrivate := by
  cases body : node.field? .body with
  | none => simp [classifier, Entity.withoutPrivate, body]
  | some inner =>
      simp [classifier, Entity.withoutPrivate, body, members_hiding, Members.withoutPrivate]

-- The signature of a function and the members of an enumeration are public.
theorem function_hiding (node : Node) : (function node).withoutPrivate = function node :=
  rfl

theorem enumeration_hiding (node : Node) :
    (enumeration node).withoutPrivate = enumeration node := by
  have kept : (enumeration node).properties.filter (fun property => property.visibility ≠ .priv) =
      (enumeration node).properties := by
    rw [List.filter_eq_self, enumeration, List.forall_mem_map]
    intro name _
    rfl
  rw [Entity.withoutPrivate, kept]
  rfl

theorem declaration_hiding (options : AnalysisOptions) (node : Node) :
    declaration? options.hidingPrivate node =
      (declaration? options.showingPrivate node).map Entity.withoutPrivate := by
  unfold declaration?
  split
  · rw [classifier_hiding, Option.map_some]
  · rw [classifier_hiding, Option.map_some]
  · rw [Option.map_some, function_hiding]
  · rw [Option.map_some, enumeration_hiding]
  · rfl

def Found.withoutPrivate (found : Found) : Found :=
  { found with entities := found.entities.map Entity.withoutPrivate }

theorem visit_declaration_hiding (options : AnalysisOptions) (found : Found) (node : Node)
    (depth : Nat) :
    visitDeclaration options.hidingPrivate found.withoutPrivate node depth =
      ((visitDeclaration options.showingPrivate found node depth).1,
        (visitDeclaration options.showingPrivate found node depth).2.withoutPrivate) := by
  by_cases declarator : node.kind = .declarator
  · simp [visitDeclaration, Found.withoutPrivate, declarator]
  · have rule := declaration_hiding options node
    cases shown : declaration? options.showingPrivate node with
    | none => simp [visitDeclaration, declarator, rule, shown]
    | some entity =>
        by_cases deep : options.maxDepth ≤ depth
        · simp [visitDeclaration, Found.withoutPrivate, declarator, rule, shown, deep]
        · simp [visitDeclaration, Found.withoutPrivate, Entity.withoutPrivate, declarator, rule,
            shown, deep]

theorem entities_hiding (options : AnalysisOptions) (root : Node) :
    entities options.hidingPrivate root =
      (entities options.showingPrivate root).map Entity.withoutPrivate :=
  congrArg Found.entities
    (walk_image Found.withoutPrivate _ _ (visit_declaration_hiding options) {} root)

end Outline

theorem Relationship.derive_hiding (entities : List Entity) :
    derive (entities.map Entity.withoutPrivate) = derive entities :=
  List.flatMap_map Entity.withoutPrivate ofEntity entities

theorem analysis_hides_private_members (options : AnalysisOptions) (language source : String)
    (root : Tree.Node) :
    analyzeTree options.hidingPrivate language source root =
      { analyzeTree options.showingPrivate language source root with
        entities := (analyzeTree options.showingPrivate language source root).entities.map
          Entity.withoutPrivate } := by
  have listed := Outline.entities_hiding options root
  have derived := Relationship.derive_hiding (Outline.entities options.showingPrivate root)
  simp only [analyzeTree, listed, derived, List.length_map]

end SourceAtlas
