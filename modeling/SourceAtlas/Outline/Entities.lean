import SourceAtlas.Outline.Declaration

/-!
All declarations of a tree.

The traversal keeps one slot for the name of a variable. A declarator fills or clears it, and the
next declaration takes it: that is the class the variable is bound to, when there is one.
-/

open SourceAtlas.Tree

namespace SourceAtlas.Outline

structure Found where
  binding : Option String := none
  entities : List Entity := []

-- A declaration below the greatest depth is left out together with all that is inside it.
def visitDeclaration (options : AnalysisOptions) : Visit Found := fun found node depth =>
  if node.kind == .declarator then (.descend, { found with binding := boundName? node })
  else
    match declaration? options node with
    | none => (.descend, found)
    | some entity =>
      if options.maxDepth ≤ depth then (.skip, { found with binding := none })
      else
        let named := { entity with name := found.binding.getD entity.name }
        (.enter, { binding := none, entities := found.entities ++ [named] })

def entities (options : AnalysisOptions) (root : Node) : List Entity :=
  (walk (visitDeclaration options) {} root).entities

end SourceAtlas.Outline
