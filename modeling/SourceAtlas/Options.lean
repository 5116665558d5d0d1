/-!
What an analysis is asked to report.
-/

namespace SourceAtlas

structure AnalysisOptions where
  includePrivate : Bool := true
  includeComments : Bool := false
  maxDepth : Nat := 5
  deriving DecidableEq, Repr

namespace AnalysisOptions

/-- The least and the greatest nesting depth an analysis of a text accepts. -/
def minDepth : Nat := 1

def depthLimit : Nat := 10

def depthAccepted (options : AnalysisOptions) : Bool :=
  minDepth ≤ options.maxDepth && options.maxDepth ≤ depthLimit

end AnalysisOptions

end SourceAtlas
