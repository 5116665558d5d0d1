import SourceAtlas.Model.Relationship

/-!
The whole of what is known about one source text.
-/

namespace SourceAtlas

structure Import where
  module : String
  names : List String
  position : Position
  deriving DecidableEq, Repr

structure AnalysisMetadata where
  language : String := ""
  lineCount : Nat := 0
  entityCount : Nat := 0
  relationshipCount : Nat := 0
  elapsedMs : Nat := 0
  deriving DecidableEq, Repr, Inhabited

structure Analysis where
  entities : List Entity
  relationships : List Relationship
  imports : List Import
  exports : List String
  metadata : AnalysisMetadata
  deriving DecidableEq, Repr

namespace Analysis

/-- An analysis that was put together by hand. -/
def ofParts (entities : List Entity) (relationships : List Relationship) : Analysis :=
  { entities, relationships, imports := [], exports := []
    metadata := { entityCount := entities.length, relationshipCount := relationships.length } }

def entity? (analysis : Analysis) (name : String) : Option Entity :=
  analysis.entities.find? fun entity => entity.name == name

end Analysis

end SourceAtlas
