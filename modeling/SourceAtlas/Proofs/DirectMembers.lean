import Mathlib.Data.List.Forall2
import SourceAtlas.Proofs.Extraction

/-!
Members of classes and interfaces. A traversal collects them that descends from the body and skips
every other node, so they are the direct children of the body that are properties or methods. Each
is read from its name, its type, its modifiers and its parameters. Static blocks, initial values,
arguments of decorators and nested declarations lie deeper and have no part in it.
-/

open SourceAtlas.Tree

namespace SourceAtlas.Outline

def hasModifier (node : Node) (modifier : Modifier) : Bool :=
  node.children.any fun child => child.kind == .modifier modifier

def ruledVisibility (node : Node) : Visibility :=
  if hasPrivateName node || hasModifier node .priv then .priv
  else if hasModifier node .prot then .prot
  else .pub

def shown (options : AnalysisOptions) (node : Node) : Bool :=
  options.includePrivate || ruledVisibility node != .priv

/-- What the nodes of one kind are read as, in order, without those that are not to be shown. -/
def listed {Member : Type} (options : AnalysisOptions) (kind : Kind) (read : Node → Member)
    (nodes : List Node) : List Member :=
  (nodes.filter fun node => node.kind == kind && shown options node).map read

theorem listed_cons {Member : Type} (options : AnalysisOptions) (kind : Kind)
    (read : Node → Member) (node : Node) (rest : List Node) :
    listed options kind read (node :: rest) =
      listed options kind read [node] ++ listed options kind read rest := by
  rw [listed, ← List.singleton_append, List.filter_append, List.map_append]
  rfl

theorem modifier_iff (node : Node) (modifier : Modifier) :
    modifier? node = some modifier ↔ node.kind = .modifier modifier := by
  unfold modifier?
  split <;> simp_all

theorem modifiers_of_contains (node : Node) (modifier : Modifier) :
    (modifiersOf node).contains modifier = hasModifier node modifier := by
  rw [Bool.eq_iff_iff, modifiersOf, Modifiers.contains_of_list, hasModifier, List.mem_filterMap,
    List.any_eq_true]
  simp only [modifier_iff, beq_iff_eq]

theorem visibility_ruled (node : Node) : visibilityOf node = ruledVisibility node := by
  simp only [visibilityOf, Visibility.ofModifiers, modifiers_of_contains, ruledVisibility,
    Bool.or_eq_true]
  by_cases hidden : hasPrivateName node = true
  · simp [hidden]
  · simp [hidden]

/-! The traversal of a body. -/

theorem visit_member_listed (options : AnalysisOptions) (members : Members) (node : Node)
    (depth : Nat) (inside : members.atBody = false) :
    visitMember options members node depth = (.skip, {
      atBody := false
      properties := members.properties ++ listed options .property property [node]
      methods := members.methods ++ listed options .method method [node] }) := by
  obtain ⟨_, properties, methods⟩ := members
  subst inside
  have asked : (options.includePrivate || visibilityOf node != .priv) = shown options node := by
    rw [visibility_ruled, shown]
  cases kind : node.kind with
  | property =>
      have wanted : (options.includePrivate || (property node).visibility != .priv) =
        shown options node := asked
      simp only [visitMember, kind, wanted]
      by_cases held : shown options node = true
      · simp [listed, kind, held]
      · simp [listed, kind, held]
  | method =>
      have wanted : (options.includePrivate || (method node).visibility != .priv) =
        shown options node := asked
      simp only [visitMember, kind, wanted]
      by_cases held : shown options node = true
      · simp [listed, kind, held]
      · simp [listed, kind, held]
  | _ => simp [visitMember, listed, kind]

theorem recurse_all_listed (options : AnalysisOptions) (members : Members) (depth : Nat)
    (nodes : List Node) (inside : members.atBody = false) :
    recurseAll (visitMember options) members depth nodes = {
      atBody := false
      properties := members.properties ++ listed options .property property nodes
      methods := members.methods ++ listed options .method method nodes } := by
  induction nodes generalizing members with
  | nil =>
      obtain ⟨_, properties, methods⟩ := members
      subst inside
      simp [recurseAll, listed]
  | cons node rest ih =>
      rw [recurseAll, recurse_eq, visit_member_listed options members node depth inside]
      rw [ih _ rfl, listed_cons _ _ _ node rest, listed_cons _ _ _ node rest]
      simp only [List.append_assoc]

theorem members_direct (options : AnalysisOptions) (body : Node) :
    membersOf options body = {
      atBody := false
      properties := listed options .property property body.children
      methods := listed options .method method body.children } := by
  rw [membersOf, walk_exact, recurse_eq]
  exact recurse_all_listed options _ 0 body.children rfl

theorem classifier_direct (kind : EntityKind) (options : AnalysisOptions) (node body : Node)
    (inside : node.field? .body = some body) :
    (classifier kind options node).properties = listed options .property property body.children ∧
      (classifier kind options node).methods = listed options .method method body.children := by
  simp [classifier, inside, members_direct]

/-! What a member is read from. -/

structure SameHead (left right : Node) : Prop where
  kind : left.kind = right.kind
  name : left.fieldText? .name = right.fieldText? .name
  nameKind : (left.field? .name).map (·.kind) = (right.field? .name).map (·.kind)
  type : left.fieldText? .ascription = right.fieldText? .ascription

def isParameter (node : Node) : Bool :=
  node.kind == .requiredParameter || node.kind == .optionalParameter

def parameterNodes (node : Node) : List Node :=
  ((node.field? .parameters).map fun list => list.children.filter isParameter).getD []

/-- Two nodes agree in all that a member is read from, whatever else lies below them. -/
structure SameMember (left right : Node) : Prop extends SameHead left right where
  modifiers : ∀ modifier, hasModifier left modifier = hasModifier right modifier
  result : left.fieldText? .resultAscription = right.fieldText? .resultAscription
  parameters : List.Forall₂ SameHead (parameterNodes left) (parameterNodes right)

def isMember (node : Node) : Bool :=
  node.kind == .property || node.kind == .method

/-- The members in two bodies agree one for one. What stands between them is not compared. -/
def SameMembers (left right : Node) : Prop :=
  List.Forall₂ SameMember (left.children.filter isMember) (right.children.filter isMember)

theorem same_name (left right : Node) (same : SameHead left right) :
    nameOf left = nameOf right := by
  rw [nameOf, nameOf, same.name]

theorem same_type (left right : Node) (field : Field) (missing : String)
    (same : left.fieldText? field = right.fieldText? field) :
    typeUnder left field missing = typeUnder right field missing := by
  rw [typeUnder, typeUnder, same]

theorem same_name_kind (left right : Node) (same : SameHead left right) (test : Kind → Bool) :
    (left.field? .name).any (fun name => test name.kind) =
      (right.field? .name).any fun name => test name.kind := by
  have kinds := congrArg (Option.any test) same.nameKind
  rw [Option.any_map, Option.any_map] at kinds
  exact kinds

theorem same_parameter (left right : Node) (same : SameHead left right) (optional : Bool) :
    parameter left optional = parameter right optional := by
  have name : parameterName left = parameterName right := by
    have pattern := same_name_kind left right same (· == .pattern)
    rw [parameterName, parameterName, pattern, same_name left right same]
  rw [parameter, parameter, name, same_type left right .ascription anyType same.type]

theorem parameters_read (node : Node) :
    parametersOf node = (parameterNodes node).map fun inner =>
      parameter inner (inner.kind = .optionalParameter) := by
  unfold parametersOf parameterNodes
  cases node.field? .parameters with
  | none => rfl
  | some list =>
      simp only [Option.map_some, Option.getD_some]
      rw [← List.filterMap_eq_map, List.filterMap_filter]
      apply List.filterMap_congr
      intro inner _
      cases kind : inner.kind <;> simp [parameter?, isParameter, kind]

theorem same_parameters (left right : Node) (same : SameMember left right) :
    parametersOf left = parametersOf right := by
  rw [parameters_read, parameters_read, ← List.forall₂_eq_eq_eq]
  refine List.rel_map ?_ same.parameters
  intro inner other alike
  simp only [alike.kind, same_parameter inner other alike]

theorem same_visibility (left right : Node) (same : SameMember left right) :
    ruledVisibility left = ruledVisibility right := by
  have privateName : hasPrivateName left = hasPrivateName right :=
    same_name_kind left right same.toSameHead (· == .privateName)
  simp only [ruledVisibility, privateName, same.modifiers]

theorem same_property (left right : Node) (same : SameMember left right) :
    property left = property right := by
  simp only [property, visibility_ruled, modifiers_of_contains, same.modifiers,
    same_visibility left right same, same_name left right same.toSameHead,
    same_type left right .ascription anyType same.type]

theorem same_method (left right : Node) (same : SameMember left right) :
    method left = method right := by
  simp only [method, visibility_ruled, modifiers_of_contains, same.modifiers, returnTypeOf,
    same_visibility left right same, same_name left right same.toSameHead,
    same_parameters left right same,
    same_type left right .resultAscription voidType same.result]

theorem listed_members {Member : Type} (options : AnalysisOptions) (kind : Kind)
    (read : Node → Member) (nodes : List Node)
    (member : ∀ node, node.kind = kind → isMember node = true) :
    listed options kind read (nodes.filter isMember) = listed options kind read nodes := by
  rw [listed, listed, List.filter_filter]
  congr 1
  apply List.filter_congr
  intro node _
  by_cases same : node.kind = kind
  · simp [member node same]
  · simp [same]

theorem listed_same {Member : Type} (options : AnalysisOptions) (kind : Kind)
    (read : Node → Member) (left right : Node)
    (member : ∀ node, node.kind = kind → isMember node = true)
    (reads : ∀ node other, SameMember node other → read node = read other)
    (same : SameMembers left right) :
    listed options kind read left.children = listed options kind read right.children := by
  rw [← listed_members options kind read left.children member,
    ← listed_members options kind read right.children member, ← List.forall₂_eq_eq_eq]
  refine List.rel_map (fun node other alike => reads node other alike) (List.rel_filter ?_ same)
  intro node other alike
  simp only [alike.kind, shown, same_visibility node other alike]

/-- The members of an entity are those of the direct children of the body. Any class or interface
has the same members whose body holds members that agree with these. -/
structure HoldsDirect (options : AnalysisOptions) (body : Node) (entity : Entity) : Prop where
  properties : entity.properties = listed options .property property body.children
  methods : entity.methods = listed options .method method body.children
  visibility : ∀ child ∈ body.children, (property child).visibility = ruledVisibility child ∧
    (method child).visibility = ruledVisibility child
  unaffected : ∀ kind node other, node.field? .body = some other → SameMembers body other →
    (classifier kind options node).properties = entity.properties ∧
      (classifier kind options node).methods = entity.methods

theorem described_holds_direct (options : AnalysisOptions) (entity : Entity) (node body : Node)
    (described : Describes options entity node)
    (declares : node.kind = .classDecl ∨ node.kind = .interfaceDecl)
    (inside : node.field? .body = some body) : HoldsDirect options body entity := by
  have rule := described.rule
  have read : entity.properties = listed options .property property body.children ∧
      entity.methods = listed options .method method body.children := by
    rcases declares with kind | kind
    · simp only [FollowsRule, kind] at rule
      rw [rule]
      exact classifier_direct .objectClass options node body inside
    · simp only [FollowsRule, kind] at rule
      rw [rule]
      exact classifier_direct .interface options node body inside
  refine ⟨read.1, read.2, ?_, ?_⟩
  · intro child _
    exact ⟨visibility_ruled child, visibility_ruled child⟩
  · intro kind other otherBody otherInside same
    obtain ⟨properties, methods⟩ := classifier_direct kind options other otherBody otherInside
    rw [properties, methods, read.1, read.2]
    constructor
    · exact (listed_same options .property property body otherBody
        (fun node kind => by simp [isMember, kind]) same_property same).symm
    · exact (listed_same options .method method body otherBody
        (fun node kind => by simp [isMember, kind]) same_method same).symm

/-- Every class or interface with a body that is reported has the members that stand directly in
that body, whatever kind of node the body is. -/
theorem classifiers_hold_direct_members (options : AnalysisOptions) (root : Node) :
    List.Forall₂ (fun entity occurrence =>
        occurrence.2.kind = .classDecl ∨ occurrence.2.kind = .interfaceDecl →
        ∀ body, occurrence.2.field? .body = some body → HoldsDirect options body entity)
      (entities options root) ((occurrences [] root).filter (reported options)) := by
  apply entities_related
  intro entity occurrence described declares body inside
  exact described_holds_direct options entity occurrence.2 body described declares inside

/-- A node with the name under its field and with these children. -/
def memberNode (kind nameKind : Kind) (name : String) (children : List Node) : Node :=
  let named : Node :=
    { mark := 0, kind := nameKind, text := name, position := .start, fields := [], children := [] }
  { mark := 0, kind, text := "", position := .start, fields := [(.name, named)], children }

def groupOf (kind : Kind) (children : List Node) : Node :=
  { mark := 0, kind, text := "", position := .start, fields := [], children }

def classAround (body : Node) : Node :=
  { groupOf .classDecl [body] with fields := [(.body, body)] }

/-- A body that is itself of the kind of a method, with a block, an initial value and a decorator in
which a property, a class and a modifier stand. -/
def layeredBody : Node :=
  let block := groupOf .other [memberNode .property .propertyName "deep" []]
  let decorator := groupOf .other [groupOf (.modifier .priv) []]
  groupOf .method [block,
    memberNode .property .privateName "#a" [],
    memberNode .method .propertyName "b"
      [groupOf (.modifier .prot) [], groupOf (.modifier .priv) []],
    memberNode .property .propertyName "c" [groupOf (.modifier .prot) [], classAround block],
    memberNode .method .propertyName "d" [decorator]]

/-- The same members, with nothing else in the body and nothing deeper. -/
def plainBody : Node :=
  groupOf .other [
    memberNode .property .privateName "#a" [],
    memberNode .method .propertyName "b"
      [groupOf (.modifier .priv) [], groupOf (.modifier .prot) []],
    memberNode .property .propertyName "c" [groupOf (.modifier .prot) []],
    memberNode .method .propertyName "d" []]

theorem member_nodes_same (kind nameKind : Kind) (name : String) (left right : List Node)
    (modifiers : ∀ modifier, hasModifier (groupOf kind left) modifier =
      hasModifier (groupOf kind right) modifier) :
    SameMember (memberNode kind nameKind name left) (memberNode kind nameKind name right) :=
  ⟨⟨rfl, rfl, rfl, rfl⟩, modifiers, rfl, .nil⟩

theorem layered_plain_same : SameMembers layeredBody plainBody := by
  refine .cons (member_nodes_same _ _ _ _ _ ?_) (.cons (member_nodes_same _ _ _ _ _ ?_)
    (.cons (member_nodes_same _ _ _ _ _ ?_) (.cons (member_nodes_same _ _ _ _ _ ?_) .nil))) <;>
    intro modifier <;> cases modifier <;> rfl

theorem classifiers_hold_direct_members_layered :
    ∃ entity others,
      entities { includePrivate := false } (classAround layeredBody) = entity :: others ∧
      entity.properties = [{ name := "c", type := "any", visibility := .prot }] ∧
      entity.methods = [{ name := "d" }] ∧
      HoldsDirect { includePrivate := false } layeredBody entity ∧
      (classifier .interface { includePrivate := false } (classAround plainBody)).properties =
        entity.properties := by
  have every := classifiers_hold_direct_members { includePrivate := false }
    (classAround layeredBody)
  obtain ⟨entity, others, holds, _, found⟩ := List.forall₂_cons_right_iff.mp every
  have direct := holds (.inl rfl) layeredBody rfl
  refine ⟨entity, others, found, ?_, ?_, direct, ?_⟩
  · rw [direct.properties]
    decide +kernel
  · rw [direct.methods]
    decide +kernel
  · exact (direct.unaffected .interface (classAround plainBody) plainBody rfl
      layered_plain_same).1

end SourceAtlas.Outline
