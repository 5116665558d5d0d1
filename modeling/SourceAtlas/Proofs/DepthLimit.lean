import Mathlib.Data.List.Basic
import SourceAtlas.Proofs.VariableSlot

/-!
Less depth. A smaller limit reports the entities of a larger one that lie in few enough
declarations, and reports each of them with the same name and members.
-/

open SourceAtlas.Tree

namespace SourceAtlas.Outline

/-- What a node declares does not depend on the depth that is wanted. -/
theorem declaration_depth (options : AnalysisOptions) (shallow deep : Nat) (node : Node) :
    declaration? { options with maxDepth := shallow } node =
      declaration? { options with maxDepth := deep } node :=
  rfl

theorem reported_shallow (options : AnalysisOptions) (shallow deep : Nat) (order : shallow ≤ deep)
    (occurrence : Occurrence) :
    reported { options with maxDepth := shallow } occurrence =
      (reported { options with maxDepth := deep } occurrence &&
        decide (nesting occurrence.1 < shallow)) := by
  by_cases few : nesting occurrence.1 < shallow
  · have fewer : nesting occurrence.1 < deep := by omega
    simp [reported, few, fewer]
  · simp [reported, few]

theorem locate_shallow (options : AnalysisOptions) (shallow deep : Nat) (order : shallow ≤ deep)
    (reached : Option String × Occurrence) :
    locate? { options with maxDepth := shallow } reached =
      (locate? { options with maxDepth := deep } reached).filter
        fun found => decide (nesting found.2.1 < shallow) := by
  unfold locate?
  rw [reported_shallow options shallow deep order, declaration_depth options shallow deep]
  cases reported { options with maxDepth := deep } reached.2 with
  | false => rfl
  | true =>
      cases declaration? { options with maxDepth := deep } reached.2.2 with
      | none => simp
      | some entity =>
          by_cases few : nesting reached.2.1 < shallow <;> simp [few, Option.filter_some]

theorem located_shallow (options : AnalysisOptions) (shallow deep : Nat) (order : shallow ≤ deep)
    (slot : Option String) (passed : List Occurrence) :
    located { options with maxDepth := shallow } slot passed =
      (located { options with maxDepth := deep } slot passed).filter
        fun found => decide (nesting found.2.1 < shallow) := by
  rw [located, located, List.filter_filterMap]
  congr 1
  exact funext (locate_shallow options shallow deep order)

/-- The entities of the larger depth stand with the occurrences they were read from, and those in
fewer than `shallow` declarations are the entities of the smaller depth. -/
theorem entities_shrink_with_depth (options : AnalysisOptions) (shallow deep : Nat)
    (order : shallow ≤ deep) (root : Node) (inside : Throughout ValueInside root) :
    ∃ found : List (Entity × Occurrence),
      found.map Prod.fst = entities { options with maxDepth := deep } root ∧
      found.map Prod.snd =
        (occurrences [] root).filter (reported { options with maxDepth := deep }) ∧
      (∀ pair ∈ found, Describes { options with maxDepth := deep } pair.1 pair.2.2) ∧
      entities { options with maxDepth := shallow } root =
        (found.filter fun pair => nesting pair.2.1 < shallow).map Prod.fst := by
  refine ⟨located { options with maxDepth := deep } none (occurrences [] root),
    ?whole, ?places, ?described, ?kept⟩
  case whole => exact (entities_located _ root inside).symm
  case places => exact located_occurrences _ none _
  case described => exact located_describes _ none _
  case kept =>
    rw [entities_located _ root inside, located_shallow options shallow deep order]

/-- A variable bound to a class with another such variable inside it, and a class behind both. -/
def nestedTree : Node :=
  let node (kind : Kind) (text : String) (fields : List (Field × Node)) (children : List Node) :
      Node :=
    { mark := 0, kind, text, position := .start, fields, children }
  let binding (name : String) (body : List Node) :=
    let named := node .identifier name [] []
    let value := node .classDecl "" [] body
    node .declarator "" [(.name, named), (.value, value)] [named, value]
  let last := node .typeName "Last" [] []
  node .other "" []
    [binding "Outer" [binding "Inner" []], node .classDecl "" [(.name, last)] [last]]

theorem nested_tree_inside : Throughout ValueInside nestedTree := by
  simp [nestedTree, Throughout, occurrences, occurrencesAll, ValueInside, Node.field?]

theorem entities_shrink_with_depth_nested :
    1 ≤ 2 ∧ Throughout ValueInside nestedTree ∧
    ∃ found : List (Entity × Occurrence),
      found.map Prod.fst = entities { maxDepth := 2 } nestedTree ∧
      found.map Prod.snd = (occurrences [] nestedTree).filter (reported { maxDepth := 2 }) ∧
      (∀ pair ∈ found, Describes { maxDepth := 2 } pair.1 pair.2.2) ∧
      entities { maxDepth := 1 } nestedTree =
        (found.filter fun pair => nesting pair.2.1 < 1).map Prod.fst :=
  ⟨by decide, nested_tree_inside,
    entities_shrink_with_depth {} 1 2 (by decide) nestedTree nested_tree_inside⟩

example : (entities { maxDepth := 2 } nestedTree).map (·.name) = ["Outer", "Inner", "Last"] ∧
    (entities { maxDepth := 1 } nestedTree).map (·.name) = ["Outer", "Last"] := by
  cbv

end SourceAtlas.Outline
