import SourceAtlas.Model.Entity

/-!
Edges between entities, and the edges that declared supertypes give.
-/

namespace SourceAtlas

inductive RelationshipKind where
  | inheritance
  | composition
  | aggregation
  | association
  | dependency
  deriving DecidableEq, Repr

namespace RelationshipKind

def all : List RelationshipKind :=
  [.inheritance, .composition, .aggregation, .association, .dependency]

def name : RelationshipKind → String
  | .inheritance => "inheritance"
  | .composition => "composition"
  | .aggregation => "aggregation"
  | .association => "association"
  | .dependency => "dependency"

def ofName? (name : String) : Option RelationshipKind :=
  all.find? fun kind => kind.name == name

end RelationshipKind

structure Relationship where
  kind : RelationshipKind
  source : String
  target : String
  label : Option String := none
  multiplicity : Option String := none
  deriving DecidableEq, Repr

namespace Relationship

def implementsLabel : String := "implements"

-- The edges of one entity: first to what it extends, then to what it implements.
def ofEntity (entity : Entity) : List Relationship :=
  entity.bases.map (fun base => { kind := .inheritance, source := entity.name, target := base }) ++
    entity.interfaces.map fun interface =>
      { kind := .dependency, source := entity.name, target := interface,
        label := some implementsLabel }

-- Entities give their edges in order, and repeated names give repeated edges.
def derive (entities : List Entity) : List Relationship :=
  entities.flatMap ofEntity

end Relationship

end SourceAtlas
