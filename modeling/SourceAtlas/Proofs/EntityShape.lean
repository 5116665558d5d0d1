import SourceAtlas.Proofs.DirectMembers
import SourceAtlas.Proofs.StrippedEnds
import SourceAtlas.Proofs.VariableNames

/-!
The shape of what is reported. A tree may be partial: a field may be missing, blank or of an
unexpected kind. Whatever is missing is replaced where it is read, so every member has a name and a
type with nothing blank around them. What an entity holds besides follows from its kind.
-/

namespace SourceAtlas

namespace Text

/-- Something is written, and no blank stands at either end. -/
structure Tidy (text : String) : Prop where
  written : text ≠ ""
  front : text.toList.head?.any isBlank = false
  back : text.toList.getLast?.any isBlank = false

theorem trim_tidy (text : String) (written : trim text ≠ "") : Tidy (trim text) := by
  refine ⟨written, ?_, ?_⟩
  · rw [trim, String.toList_ofList]
    exact strip_ends_front isBlank text.toList
  · rw [trim, String.toList_ofList]
    exact strip_ends_back isBlank text.toList

theorem unknown_tidy : Tidy unknownName := by
  constructor <;> decide

end Text

open Text

theorem any_type_tidy : Tidy anyType := by
  constructor <;> decide

theorem void_type_tidy : Tidy voidType := by
  constructor <;> decide

theorem destructured_tidy : Tidy destructuredName := by
  constructor <;> decide

/-! Shapes, from parameters up to entities. -/

structure Parameter.WellShaped (parameter : Parameter) : Prop where
  name : Tidy parameter.name
  type : Tidy parameter.type
  defaultValue : parameter.defaultValue = none

structure Method.WellShaped (method : Method) : Prop where
  name : Tidy method.name
  returnType : Tidy method.returnType
  parameters : ∀ parameter ∈ method.parameters, parameter.WellShaped

structure Property.WellShaped (property : Property) : Prop where
  name : Tidy property.name
  type : Tidy property.type

/-- The method that stands for a function in its entity. -/
structure Method.Plain (method : Method) : Prop where
  visibility : method.visibility = .pub
  isStatic : method.isStatic = false
  isAbstract : method.isAbstract = false

/-- The property that stands for a member of an enumeration. -/
structure Property.Plain (property : Property) : Prop where
  type : property.type = "string | number"
  visibility : property.visibility = .pub
  isStatic : property.isStatic = false
  isReadonly : property.isReadonly = false

structure Entity.WellShaped (entity : Entity) : Prop where
  kind : entity.kind ∈ [.objectClass, .interface, .function, .enumeration]
  properties : entity.kind.isClassifier = true →
    ∀ property ∈ entity.properties, property.WellShaped
  methods : ∀ method ∈ entity.methods, method.WellShaped
  function : entity.kind = .function →
    entity.properties = [] ∧ entity.bases = [] ∧ entity.interfaces = [] ∧
      ∃ method, entity.methods = [method] ∧ method.Plain
  enumeration : entity.kind = .enumeration →
    entity.methods = [] ∧ entity.bases = [] ∧ entity.interfaces = [] ∧
      ∀ property ∈ entity.properties, property.Plain

open SourceAtlas.Tree

namespace Outline

/-! Members, of any node. -/

theorem name_of_tidy (node : Node) : Tidy (nameOf node) := by
  unfold nameOf
  split
  · exact unknown_tidy
  · rename_i text _
    by_cases blank : (trim text).isEmpty = true
    · simp only [blank, if_true]
      exact unknown_tidy
    · simp only [blank]
      exact trim_tidy text (by simpa using blank)

theorem ascribed_type_tidy (text : String) : Tidy (ascribedType text) := by
  unfold ascribedType
  by_cases blank : (trim (String.ofList (dropColon (trim text).toList))).isEmpty = true
  · simp only [blank, if_true]
    exact any_type_tidy
  · simp only [blank]
    exact trim_tidy _ (by simpa using blank)

theorem type_under_tidy (node : Node) (field : Field) (missing : String) (tidy : Tidy missing) :
    Tidy (typeUnder node field missing) := by
  unfold typeUnder
  split
  · exact tidy
  · exact ascribed_type_tidy _

theorem parameter_name_tidy (node : Node) : Tidy (parameterName node) := by
  unfold parameterName
  split
  · exact destructured_tidy
  · exact name_of_tidy node

theorem parameter_shaped (node : Node) (optional : Bool) :
    (parameter node optional).WellShaped where
  name := parameter_name_tidy node
  type := type_under_tidy node .ascription anyType any_type_tidy
  defaultValue := rfl

theorem parameters_shaped (node : Node) : ∀ parameter ∈ parametersOf node, parameter.WellShaped := by
  intro parameter member
  unfold parametersOf at member
  split at member
  · cases member
  · obtain ⟨child, _, read⟩ := List.mem_filterMap.mp member
    unfold parameter? at read
    split at read
    · cases read
      exact parameter_shaped child false
    · cases read
      exact parameter_shaped child true
    · cases read

theorem property_shaped (node : Node) : (property node).WellShaped where
  name := name_of_tidy node
  type := type_under_tidy node .ascription anyType any_type_tidy

theorem method_shaped (node : Node) : (method node).WellShaped where
  name := name_of_tidy node
  returnType := type_under_tidy node .resultAscription voidType void_type_tidy
  parameters := parameters_shaped node

/-! Members of a body. -/

structure Members.WellShaped (members : Members) : Prop where
  properties : ∀ property ∈ members.properties, property.WellShaped
  methods : ∀ method ∈ members.methods, method.WellShaped

theorem members_shaped (options : AnalysisOptions) (body : Node) :
    (membersOf options body).WellShaped := by
  rw [members_direct]
  constructor
  · intro property member
    obtain ⟨node, _, rfl⟩ := List.mem_map.mp member
    exact property_shaped node
  · intro method member
    obtain ⟨node, _, rfl⟩ := List.mem_map.mp member
    exact method_shaped node

/-! Declarations. The name of an entity is none of its members', so it may be replaced. -/

theorem classifier_members (kind : EntityKind) (options : AnalysisOptions) (node : Node) :
    (∀ property ∈ (classifier kind options node).properties, property.WellShaped) ∧
      ∀ method ∈ (classifier kind options node).methods, method.WellShaped := by
  cases body : node.field? .body with
  | none => simp [classifier, body]
  | some inner =>
      have shaped := members_shaped options inner
      simpa [classifier, body] using And.intro shaped.properties shaped.methods

theorem classifier_shaped (kind : EntityKind) (isClassifier : kind.isClassifier = true)
    (options : AnalysisOptions) (node : Node) (name : String) :
    Entity.WellShaped { classifier kind options node with name } := by
  obtain ⟨properties, methods⟩ := classifier_members kind options node
  constructor
  · change kind ∈ _
    revert isClassifier
    cases kind <;> decide
  · exact fun _ => properties
  · exact methods
  · rintro (rfl : kind = .function)
    cases isClassifier
  · rintro (rfl : kind = .enumeration)
    cases isClassifier

theorem function_shaped (node : Node) (name : String) :
    Entity.WellShaped { function node with name } := by
  have signature : Method.WellShaped
      { name := (heading .function node).name, parameters := parametersOf node,
        returnType := returnTypeOf node } := by
    constructor
    · rw [heading_name, ← name_of_own]
      exact name_of_tidy node
    · exact type_under_tidy node .resultAscription voidType void_type_tidy
    · exact parameters_shaped node
  constructor
  · change EntityKind.function ∈ _
    decide
  · intro isClassifier
    cases isClassifier
  · exact List.forall_mem_singleton.mpr signature
  · exact fun _ => ⟨rfl, rfl, rfl, _, rfl, rfl, rfl, rfl⟩
  · intro other
    cases other

theorem enumeration_shaped (node : Node) (name : String) :
    Entity.WellShaped { enumeration node with name } := by
  have members : ∀ property ∈ (enumeration node).properties, property.Plain := by
    intro property member
    obtain ⟨_, _, rfl⟩ := List.mem_map.mp member
    exact ⟨rfl, rfl, rfl, rfl⟩
  constructor
  · change EntityKind.enumeration ∈ _
    decide
  · intro isClassifier
    cases isClassifier
  · intro method member
    cases member
  · intro other
    cases other
  · exact fun _ => ⟨rfl, rfl, rfl, members⟩

theorem described_shaped (options : AnalysisOptions) (entity : Entity) (node : Node)
    (described : Describes options entity node) : entity.WellShaped := by
  have rule := described.rule
  unfold FollowsRule at rule
  split at rule
  · exact rule ▸ classifier_shaped .objectClass rfl options node entity.name
  · exact rule ▸ classifier_shaped .interface rfl options node entity.name
  · exact rule ▸ function_shaped node entity.name
  · exact rule ▸ enumeration_shaped node entity.name
  · exact rule.elim

/-- Every entity of every tree has the shape of its kind, whatever the tree lacks. -/
theorem entities_well_shaped (options : AnalysisOptions) (root : Node) (entity : Entity)
    (member : entity ∈ entities options root) : entity.WellShaped := by
  obtain ⟨occurrence, _, described⟩ := entity_occurs options root entity member
  exact described_shaped options entity occurrence.2 described

/-- A class whose name is blank. It has a property with nothing behind the colon and a method
without a name, which takes its parameter apart. -/
def partialClass : Node :=
  let node (kind : Kind) (fields : List (Field × Node)) (children : List Node) : Node :=
    { mark := 0, kind, text := "", position := .start, fields, children }
  let taken := node .requiredParameter [(.name, leaf .pattern "\x7ba\x7d")] []
  let held := node .property [(.name, leaf .propertyName " b\t"), (.ascription, leaf .other " : ")] []
  let body := node .other [] [held, node .method [(.parameters, node .other [] [taken])] []]
  node .classDecl [(.name, leaf .typeName " "), (.body, body)] [body]

theorem entities_well_shaped_partial :
    ∃ entity ∈ entities {} partialClass, entity.name = "Unknown" ∧
      entity.properties = [{ name := "b", type := "any" }] ∧
      entity.methods = [{ name := "Unknown", returnType := "void",
                          parameters := [{ name := "destructured", type := "any" }] }] ∧
      entity.WellShaped :=
  ⟨classifier .objectClass {} partialClass, by decide +kernel, by decide +kernel,
    by decide +kernel, by decide +kernel,
    entities_well_shaped {} partialClass _ (by decide +kernel)⟩

end Outline

end SourceAtlas
