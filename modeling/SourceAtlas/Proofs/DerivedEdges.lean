import Mathlib.Data.List.Nodup
import SourceAtlas.Model.Relationship

/-!
Edges that declared supertypes give. The edges of all entities stand in one list, where names may
recur and targets need not be entities. An edge knows its source by name only, so what can be read
back for a name is what all entities of that name declare, and for names that do not recur it is
what each entity declares.
-/

namespace SourceAtlas.Relationship

def edgesFrom (name : String) (edges : List Relationship) : List Relationship :=
  edges.filter fun edge => edge.source == name

def targetsOf (kind : RelationshipKind) (edges : List Relationship) : List String :=
  (edges.filter fun edge => edge.kind == kind).map (·.target)

/-- The supertypes of an entity that edges of one kind lead to. -/
def supertypes : RelationshipKind → Entity → List String
  | .inheritance, entity => entity.bases
  | .dependency, entity => entity.interfaces
  | .composition, _ => []
  | .aggregation, _ => []
  | .association, _ => []

theorem targets_append (kind : RelationshipKind) (left right : List Relationship) :
    targetsOf kind (left ++ right) = targetsOf kind left ++ targetsOf kind right := by
  rw [targetsOf, List.filter_append, List.map_append]
  rfl

theorem derive_cons (entity : Entity) (rest : List Entity) :
    derive (entity :: rest) = ofEntity entity ++ derive rest :=
  List.flatMap_cons

theorem entity_targets (kind : RelationshipKind) (entity : Entity) :
    targetsOf kind (ofEntity entity) = supertypes kind entity := by
  rw [ofEntity, targets_append]
  cases kind <;>
    simp [targetsOf, supertypes, List.filter_map, Function.comp_def]

theorem entity_edge (entity : Entity) (edge : Relationship) (member : edge ∈ ofEntity entity) :
    edge.source = entity.name ∧ edge.multiplicity = none ∧
      (edge.kind = .inheritance ∧ edge.label = none ∨
        edge.kind = .dependency ∧ edge.label = some implementsLabel) := by
  rcases List.mem_append.mp member with extending | implementing
  · obtain ⟨base, _, same⟩ := List.mem_map.mp extending
    subst same
    exact ⟨rfl, rfl, .inl ⟨rfl, rfl⟩⟩
  · obtain ⟨interface, _, same⟩ := List.mem_map.mp implementing
    subst same
    exact ⟨rfl, rfl, .inr ⟨rfl, rfl⟩⟩

theorem entity_edge_order (entity : Entity) :
    (ofEntity entity).Pairwise fun earlier later =>
      earlier.kind = .inheritance ∨ later.kind = .dependency := by
  rw [ofEntity, List.pairwise_append, List.pairwise_map, List.pairwise_map]
  refine ⟨?_, ?_, ?_⟩
  · exact List.pairwise_of_forall fun _ _ => .inl rfl
  · exact List.pairwise_of_forall fun _ _ => .inr rfl
  · intro earlier extending later _
    obtain ⟨base, _, same⟩ := List.mem_map.mp extending
    subst same
    exact .inl rfl

/-! Reading back by name. -/

theorem entity_edges_from (name : String) (entity : Entity) :
    edgesFrom name (ofEntity entity) = if entity.name = name then ofEntity entity else [] := by
  by_cases same : entity.name = name
  · rw [if_pos same, edgesFrom, List.filter_eq_self]
    intro edge member
    simp [(entity_edge entity edge member).1, same]
  · rw [if_neg same, edgesFrom, List.filter_eq_nil_iff]
    intro edge member
    simp [(entity_edge entity edge member).1, same]

theorem derive_edges_from (name : String) (entities : List Entity) :
    edgesFrom name (derive entities) =
      derive (entities.filter fun entity => entity.name == name) := by
  induction entities with
  | nil => rfl
  | cons entity rest ih =>
      have first := entity_edges_from name entity
      rw [edgesFrom] at first ih
      rw [derive_cons, edgesFrom, List.filter_append, first, ih]
      by_cases same : entity.name = name
      · simp [same, derive_cons]
      · simp [same]

theorem derive_targets (kind : RelationshipKind) (entities : List Entity) :
    targetsOf kind (derive entities) = entities.flatMap (supertypes kind) := by
  induction entities with
  | nil => rfl
  | cons entity rest ih =>
      rw [derive_cons, targets_append, entity_targets, ih, List.flatMap_cons]

theorem targets_from (kind : RelationshipKind) (name : String) (entities : List Entity) :
    targetsOf kind (edgesFrom name (derive entities)) =
      (entities.filter fun entity => entity.name == name).flatMap (supertypes kind) := by
  rw [derive_edges_from, derive_targets]

theorem named_alone (entities : List Entity) (distinct : (entities.map (·.name)).Nodup)
    (entity : Entity) (member : entity ∈ entities) :
    (entities.filter fun other => other.name == entity.name) = [entity] := by
  induction entities with
  | nil => cases member
  | cons first rest ih =>
      obtain ⟨fresh, others⟩ := List.nodup_cons.mp distinct
      rcases List.mem_cons.mp member with same | later
      · subst same
        have none : (rest.filter fun other => other.name == entity.name) = [] := by
          rw [List.filter_eq_nil_iff]
          intro other otherMember
          have different : other.name ≠ entity.name := by
            intro named
            exact fresh (List.mem_map.mpr ⟨other, otherMember, named⟩)
          simp [different]
        simp [none]
      · have different : first.name ≠ entity.name := by
          intro named
          exact fresh (List.mem_map.mpr ⟨entity, later, named.symm⟩)
        simp [different, ih others later]

theorem targets_alone (kind : RelationshipKind) (entities : List Entity)
    (distinct : (entities.map (·.name)).Nodup) (entity : Entity) (member : entity ∈ entities) :
    targetsOf kind (edgesFrom entity.name (derive entities)) = supertypes kind entity := by
  rw [targets_from, named_alone entities distinct entity member, List.flatMap_singleton]

/-! The order of the edges. Entities are told apart by their number in the list, since their names
may recur. -/

/-- The edges of all entities, each with the number of its entity. -/
def numberedFrom (first : Nat) : List Entity → List (Nat × Relationship)
  | [] => []
  | entity :: rest => (ofEntity entity).map (first, ·) ++ numberedFrom (first + 1) rest

def edgesAt (number : Nat) (numbered : List (Nat × Relationship)) : List Relationship :=
  (numbered.filter fun edge => edge.1 == number).map Prod.snd

theorem numbered_edges (first : Nat) (entities : List Entity) :
    (numberedFrom first entities).map Prod.snd = derive entities := by
  induction entities generalizing first with
  | nil => rfl
  | cons entity rest ih =>
      rw [numberedFrom, List.map_append, ih, derive_cons, List.map_map]
      simp [Function.comp_def]

theorem numbered_owner (first : Nat) (entities : List Entity) (edge : Nat × Relationship)
    (member : edge ∈ numberedFrom first entities) :
    first ≤ edge.1 ∧ ∃ entity, entities[edge.1 - first]? = some entity ∧
      edge.2 ∈ ofEntity entity := by
  induction entities generalizing first with
  | nil => cases member
  | cons entity rest ih =>
      rcases List.mem_append.mp member with own | later
      · obtain ⟨relationship, edgeMember, same⟩ := List.mem_map.mp own
        subst same
        exact ⟨Nat.le_refl first, entity, by simp, edgeMember⟩
      · obtain ⟨bound, owner, found, own⟩ := ih (first + 1) later
        refine ⟨by omega, owner, ?_, own⟩
        have shifted : edge.1 - first = (edge.1 - (first + 1)) + 1 := by omega
        rw [shifted, List.getElem?_cons_succ]
        exact found

theorem numbered_order (first : Nat) (entities : List Entity) :
    (numberedFrom first entities).Pairwise fun earlier later =>
      earlier.1 < later.1 ∨ earlier.1 = later.1 ∧
        (earlier.2.kind = .inheritance ∨ later.2.kind = .dependency) := by
  induction entities generalizing first with
  | nil => exact .nil
  | cons entity rest ih =>
      rw [numberedFrom, List.pairwise_append, List.pairwise_map]
      refine ⟨?_, ih (first + 1), ?_⟩
      · exact (entity_edge_order entity).imp fun order => .inr ⟨rfl, order⟩
      · intro earlier own later behind
        obtain ⟨edge, _, same⟩ := List.mem_map.mp own
        subst same
        exact .inl (numbered_owner (first + 1) rest later behind).1

theorem edges_at_append (number : Nat) (left right : List (Nat × Relationship)) :
    edgesAt number (left ++ right) = edgesAt number left ++ edgesAt number right := by
  rw [edgesAt, List.filter_append, List.map_append]
  rfl

theorem edges_at_own (first number : Nat) (edges : List Relationship) :
    edgesAt number (edges.map (first, ·)) = if first = number then edges else [] := by
  by_cases same : first = number
  · simp [edgesAt, same, List.filter_map, Function.comp_def]
  · simp [edgesAt, same, List.filter_map, Function.comp_def]

theorem edges_at_behind (number : Nat) (entities : List Entity) :
    edgesAt number (numberedFrom (number + 1) entities) = [] := by
  rw [edgesAt, List.map_eq_nil_iff, List.filter_eq_nil_iff]
  intro edge member
  have behind := (numbered_owner (number + 1) entities edge member).1
  have different : edge.1 ≠ number := by omega
  simp [different]

theorem numbered_at (first offset : Nat) (entities : List Entity) (entity : Entity)
    (found : entities[offset]? = some entity) :
    edgesAt (first + offset) (numberedFrom first entities) = ofEntity entity := by
  induction entities generalizing first offset with
  | nil => cases found
  | cons head rest ih =>
      rw [numberedFrom, edges_at_append, edges_at_own]
      cases offset with
      | zero =>
          have same : head = entity := by simpa using found
          rw [Nat.add_zero, if_pos rfl, edges_at_behind, List.append_nil, same]
      | succ offset =>
          have behind := ih (first + 1) offset (by simpa using found)
          have shifted : first + 1 + offset = first + (offset + 1) := by omega
          have different : first ≠ first + (offset + 1) := by omega
          rw [if_neg different, List.nil_append, ← shifted, behind]

/-- What can be told of an edge without the entities. -/
structure Derived (edge : Relationship) : Prop where
  kind : edge.kind = .inheritance ∨ edge.kind = .dependency
  label : edge.label = if edge.kind = .dependency then some "implements" else none
  multiplicity : edge.multiplicity = none

/-- Edges with the numbers of their entities. Those of an earlier entity stand in front of those of
a later one, and edges to its bases in front of edges to its interfaces. -/
structure Numbered (entities : List Entity) (numbered : List (Nat × Relationship)) : Prop where
  order : numbered.Pairwise fun earlier later =>
    earlier.1 < later.1 ∨ earlier.1 = later.1 ∧
      (earlier.2.kind = .inheritance ∨ later.2.kind = .dependency)
  source : ∀ edge ∈ numbered, ∃ entity, entities[edge.1]? = some entity ∧
    edge.2.source = entity.name
  bases : ∀ number entity, entities[number]? = some entity →
    targetsOf .inheritance (edgesAt number numbered) = entity.bases
  interfaces : ∀ number entity, entities[number]? = some entity →
    targetsOf .dependency (edgesAt number numbered) = entity.interfaces

theorem derive_derived (entities : List Entity) (edge : Relationship)
    (member : edge ∈ derive entities) : edge.Derived := by
  obtain ⟨entity, _, own⟩ := List.mem_flatMap.mp member
  obtain ⟨_, multiplicity, ⟨kind, label⟩ | ⟨kind, label⟩⟩ := entity_edge entity edge own
  · exact ⟨.inl kind, by simp [kind, label], multiplicity⟩
  · exact ⟨.inr kind, by simp [kind, label, implementsLabel], multiplicity⟩

theorem numbered_entities (entities : List Entity) :
    Numbered entities (numberedFrom 0 entities) := by
  have own : ∀ number entity, entities[number]? = some entity → ∀ kind,
      targetsOf kind (edgesAt number (numberedFrom 0 entities)) = supertypes kind entity := by
    intro number entity found kind
    have edges := numbered_at 0 number entities entity found
    rw [Nat.zero_add] at edges
    rw [edges, entity_targets]
  constructor
  · exact numbered_order 0 entities
  · intro edge member
    obtain ⟨_, entity, found, edgeMember⟩ := numbered_owner 0 entities edge member
    exact ⟨entity, found, (entity_edge entity edge.2 edgeMember).1⟩
  · intro number entity found
    exact own number entity found .inheritance
  · intro number entity found
    exact own number entity found .dependency

/-- The edges hold all the supertypes that are declared and nothing else, in the order of the
entities. -/
theorem edges_recover_supertypes (entities : List Entity) :
    (∀ name,
      targetsOf .inheritance (edgesFrom name (derive entities)) =
        (entities.filter fun entity => entity.name == name).flatMap (·.bases) ∧
      targetsOf .dependency (edgesFrom name (derive entities)) =
        (entities.filter fun entity => entity.name == name).flatMap (·.interfaces)) ∧
    (∀ edge ∈ derive entities, edge.Derived) ∧
    (∃ numbered, numbered.map Prod.snd = derive entities ∧ Numbered entities numbered) ∧
    ((entities.map (·.name)).Nodup → ∀ entity ∈ entities,
      targetsOf .inheritance (edgesFrom entity.name (derive entities)) = entity.bases ∧
      targetsOf .dependency (edgesFrom entity.name (derive entities)) = entity.interfaces) := by
  refine ⟨?_, derive_derived entities, ?_, ?_⟩
  · intro name
    exact ⟨targets_from .inheritance name entities, targets_from .dependency name entities⟩
  · exact ⟨numberedFrom 0 entities, numbered_edges 0 entities, numbered_entities entities⟩
  · intro distinct entity member
    exact ⟨targets_alone .inheritance entities distinct entity member,
      targets_alone .dependency entities distinct entity member⟩

/-- Two entities whose supertypes are each other, themselves, repeated or not declared anywhere. -/
def entangled : List Entity :=
  [{ kind := .objectClass, name := "A", bases := ["B", "A"], interfaces := ["C", "C"] },
    { kind := .interface, name := "B", bases := ["A", "Missing"] }]

theorem edges_recover_supertypes_entangled :
    (derive entangled).map (fun edge => (edge.source, edge.target)) =
        [("A", "B"), ("A", "A"), ("A", "C"), ("A", "C"), ("B", "A"), ("B", "Missing")] ∧
      ∀ entity ∈ entangled,
        targetsOf .inheritance (edgesFrom entity.name (derive entangled)) = entity.bases ∧
        targetsOf .dependency (edgesFrom entity.name (derive entangled)) = entity.interfaces :=
  ⟨by decide, (edges_recover_supertypes entangled).2.2.2 (by decide)⟩

end SourceAtlas.Relationship
