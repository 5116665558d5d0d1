import SourceAtlas.Proofs.DirectMembers
import SourceAtlas.Proofs.PlainLexemes
import SourceAtlas.Proofs.PlainTrees
import SourceAtlas.Proofs.StrippedEnds

/-!
What is read from a tree that pictures a plain source.

Signs stand for nothing: they are no modifiers, have no label, and no clause is of their type. So a
node is read as if it had its parts alone. A node that pictures a declaration gives its entity, and
nothing inside it is collected by any of the three traversals.
-/

open SourceAtlas.Tree SourceAtlas.TypeScript

namespace SourceAtlas.Plain

/-! Nodes below which nothing is collected. -/

/-- The kind of no declaration, variable, import or export. -/
def idleKind : Kind → Bool
  | .classDecl => false
  | .interfaceDecl => false
  | .functionDecl => false
  | .enumDecl => false
  | .declarator => false
  | .importDecl => false
  | .exportDecl => false
  | _ => true

def Idle (node : Node) : Prop :=
  idleKind node.kind = true

theorem keyword_idle (text : String) : idleKind (RawNode.keyword text) = true := by
  unfold RawNode.keyword
  split <;> rfl

/-! Signs between parts. -/

theorem Signifies.kind {node : RawNode} (signifies : Signifies node) : node.kind = .other := by
  have silent : ∀ type ∈ signs, RawNode.keyword type = .other := by decide
  rw [RawNode.kind, signifies.named, if_neg Bool.false_ne_true, silent _ signifies.type]

theorem token_idle (node : RawNode) (named : node.named = false) (leaf : node.children = []) :
    Throughout Idle node.view := by
  rw [throughout_iff, Idle, RawNode.view_kind, RawNode.kind, named, RawNode.view_children, leaf]
  exact ⟨keyword_idle node.type, by simp⟩

section Parts

variable {type : String} {parts : List RawNode} {node : RawNode} (holds : Holds type parts node)

include holds

theorem Holds.filter (asked : RawNode → Bool)
    (silent : ∀ sign, Signifies sign → asked sign = false) :
    node.children.filter asked = parts.filter asked := by
  rw [← holds.parts, List.filter_filter]
  refine List.filter_congr ?_
  intro child member
  cases named : child.named with
  | true => simp
  | false => simp [silent child (holds.between child member named)]

theorem Holds.filter_map {Result : Type} (read : RawNode → Option Result)
    (silent : ∀ sign, Signifies sign → read sign = none) :
    node.children.filterMap read = parts.filterMap read := by
  rw [← holds.parts, List.filterMap_filter]
  refine List.filterMap_congr ?_
  intro child member
  cases named : child.named with
  | true => simp
  | false => simp [silent child (holds.between child member named)]

theorem Holds.every (asked : RawNode → Prop) (between : ∀ sign, Signifies sign → asked sign)
    (inside : ∀ part ∈ parts, asked part) : ∀ child ∈ node.children, asked child := by
  intro child member
  cases named : child.named with
  | true =>
      refine inside child ?_
      rw [← holds.parts]
      exact List.mem_filter.mpr ⟨member, named⟩
  | false => exact between child (holds.between child member named)

theorem Holds.labeled (label : String) :
    RawNode.labeled? id label node.children = RawNode.labeled? id label parts := by
  rw [RawNode.labeled?, RawNode.labeled?, ← List.head?_filter, ← List.head?_filter, holds.filter]
  intro sign signifies
  simp [signifies.label]

theorem Holds.of_type (asked : String) (foreign : asked ∉ signs) :
    RawNode.ofType? id asked node.children = RawNode.ofType? id asked parts := by
  rw [RawNode.ofType?, RawNode.ofType?, ← List.head?_filter, ← List.head?_filter, holds.filter]
  intro sign signifies
  have other : sign.type ≠ asked := fun same => foreign (same ▸ signifies.type)
  simpa using other

theorem Holds.kind : node.kind = RawNode.kindOfType type node.text := by
  rw [RawNode.kind, holds.named, if_pos rfl, holds.type]

theorem Holds.inside (idle : ∀ part ∈ parts, Throughout Idle part.view) :
    ∀ child ∈ node.view.children, Throughout Idle child := by
  rw [RawNode.view_children, List.forall_mem_map]
  exact holds.every _ (fun sign signifies => token_idle sign signifies.named signifies.leaf) idle

theorem Holds.idle (quiet : idleKind (RawNode.kindOfType type node.text) = true)
    (idle : ∀ part ∈ parts, Throughout Idle part.view) : Throughout Idle node.view := by
  rw [throughout_iff, Idle, RawNode.view_kind, holds.kind]
  exact ⟨quiet, holds.inside idle⟩

theorem Holds.modifiers :
    Outline.modifiersOf node.view =
      Modifiers.ofList (parts.filterMap fun part => Outline.modifier? part.view) := by
  rw [Outline.modifiersOf, RawNode.view_children, List.filterMap_map]
  refine congrArg Modifiers.ofList (holds.filter_map _ ?_)
  intro sign signifies
  simp [Outline.modifier?, signifies.kind]

theorem Holds.texts (accepted : Kind → Bool) (silent : accepted .other = false) :
    Outline.textsOf accepted node.view.children =
      Outline.textsOf accepted (parts.map RawNode.view) := by
  rw [Outline.textsOf, Outline.textsOf, RawNode.view_children, List.filter_map, List.filter_map,
    holds.filter]
  intro sign signifies
  simp [signifies.kind, silent]

theorem Holds.listed {Member : Type} (options : AnalysisOptions) (kind : Kind)
    (read : Node → Member) (some : kind ≠ .other) :
    Outline.listed options kind read node.view.children =
      Outline.listed options kind read (parts.map RawNode.view) := by
  rw [Outline.listed, Outline.listed, RawNode.view_children, List.filter_map, List.filter_map,
    holds.filter]
  intro sign signifies
  simp [signifies.kind, some.symm]

end Parts

/-! Words. -/

section Words

variable {type text : String} {node : RawNode} (spells : Spells type text node)

include spells

theorem Spells.kind : node.kind = RawNode.kindOfType type text := by
  rw [RawNode.kind, spells.named, if_pos rfl, spells.type, spells.text]

theorem Spells.idle (quiet : idleKind (RawNode.kindOfType type text) = true) :
    Throughout Idle node.view := by
  rw [throughout_iff, Idle, RawNode.view_kind, spells.kind, RawNode.view_children,
    List.forall_mem_map]
  exact ⟨quiet, fun child member =>
    token_idle child (spells.tokens child member).1 (spells.tokens child member).2⟩

end Words

theorem unlabeled (label : String) (nodes : List RawNode)
    (plain : ∀ node ∈ nodes, node.label = none) :
    RawNode.labeled? id label nodes = none := by
  rw [RawNode.labeled?, List.find?_eq_none]
  intro node member
  simp [plain node member]

theorem labeled_append (label : String) (left right : List RawNode) :
    RawNode.labeled? id label (left ++ right) =
      (RawNode.labeled? id label left).or (RawNode.labeled? id label right) :=
  List.find?_append

theorem of_type_append (type : String) (left right : List RawNode) :
    RawNode.ofType? id type (left ++ right) =
      (RawNode.ofType? id type left).or (RawNode.ofType? id type right) :=
  List.find?_append

theorem word_trimmed (name : Word) : Text.trim name.text = name.text := by
  have solid : ∀ c ∈ name.text.toList, Text.isBlank c = false := by
    intro c member
    have part := List.all_eq_true.mp name.consists c member
    simp only [Token.isWordPart, isSpace, Bool.and_eq_true, Bool.not_eq_true',
      Bool.or_eq_false_iff] at part
    exact part.1.2.1.1.1
  rw [Text.trim, Text.strip_ends_solid _ _ solid, String.ofList_toList]

theorem word_filled (name : Word) : name.text ≠ "" := by
  intro empty
  have starts := name.starts
  simp [empty] at starts

theorem word_named (name : Word) (node : Node) (written : node.fieldText? .name = some name.text) :
    Outline.nameOf node = name.text := by
  simp [Outline.nameOf, written, word_trimmed, word_filled]

/-! Fields. -/

/-- The modifiers that give a visibility. -/
def visibilityModifiers : Visibility → List Modifier
  | .pub => []
  | .priv => [.priv]
  | .prot => [.prot]

theorem modifier_given (node : RawNode) (modifier : Modifier)
    (kind : node.kind = .modifier modifier) :
    Outline.modifier? node.view = some modifier :=
  (Outline.modifier_iff _ _).mpr ((RawNode.view_kind node).trans kind)

theorem modifier_absent (node : RawNode) (kind : Kind) (same : node.kind = kind)
    (other : ∀ modifier, kind ≠ .modifier modifier) : Outline.modifier? node.view = none := by
  rw [Option.eq_none_iff_forall_not_mem]
  intro modifier given
  have marked := (Outline.modifier_iff _ _).mp given
  rw [RawNode.view_kind, same] at marked
  exact other modifier marked

theorem access_modifiers (visibility : Visibility) (nodes : List RawNode)
    (access : List.Forall₂ Grants (accessWords visibility) nodes) :
    nodes.filterMap (fun node => Outline.modifier? node.view) = visibilityModifiers visibility ∧
      (∀ node ∈ nodes, node.label = none) ∧ ∀ node ∈ nodes, Throughout Idle node.view := by
  refine ⟨?_, every_node _ _ access fun _ _ grants => grants.label, ?_⟩
  · cases visibility with
    | pub =>
        cases access
        rfl
    | priv =>
        obtain _ | ⟨grants, ⟨⟩⟩ := access
        simp [modifier_given _ .priv grants.spells.kind, visibilityModifiers]
    | prot =>
        obtain _ | ⟨grants, ⟨⟩⟩ := access
        simp [modifier_given _ .prot grants.spells.kind, visibilityModifiers]
  · exact every_node _ _ access fun word node grants => grants.spells.idle (keyword_idle word)

/-- The node of a field, as far as anything is asked of it. -/
structure Shows (field : Field) (node : Node) : Prop where
  kind : node.kind = .property
  property : Outline.property node = field.property
  idle : Throughout Idle node

theorem typing_idle (node : RawNode) (annotates : Annotates node) :
    Throughout Idle node.view := by
  obtain ⟨number, spelled, holds⟩ := annotates.holds
  refine holds.idle rfl ?_
  intro part member
  rw [List.mem_singleton.mp member]
  exact spelled.idle rfl

theorem field_shown (type : String) (field : Field) (node : RawNode)
    (typed : ∀ text, RawNode.kindOfType type text = .property)
    (pictured : FieldTree type field node) : Shows field node.view := by
  obtain ⟨access, name, typing, accessed, named, annotates, holds⟩ := pictured
  obtain ⟨modified, plain, quiet⟩ := access_modifiers field.visibility access accessed
  have nameUnder : node.field? .name = some (name.under "name") := by
    simp only [RawNode.field?, RawNode.fieldAmong?, holds.labeled, labeled_append,
      unlabeled _ access plain]
    rfl
  have typeUnder : node.field? .ascription = some (typing.under "type") := by
    simp only [RawNode.field?, RawNode.fieldAmong?, holds.labeled, labeled_append,
      unlabeled _ access plain]
    rfl
  have written : Outline.nameOf node.view = field.name.text :=
    word_named (fieldWord field.name) node.view (by
      simp [Node.fieldText?, nameUnder, named.text])
  have ascribed : Outline.typeUnder node.view .ascription anyType = "number" := by
    simp only [Outline.typeUnder, Node.fieldText?, RawNode.view_field, typeUnder, Option.map_some,
      RawNode.view_under, RawNode.view_text, annotates.text]
    decide
  have nameKind : name.kind = .propertyName := named.kind
  have unhidden : Outline.hasPrivateName node.view = false := by
    simp [Outline.hasPrivateName, nameUnder, nameKind]
  have collected : Outline.modifiersOf node.view =
      Modifiers.ofList (visibilityModifiers field.visibility) := by
    have typingKind : typing.kind = .other := by
      obtain ⟨_, _, held⟩ := annotates.holds
      exact held.kind
    have nameSilent := modifier_absent name _ nameKind (by simp)
    have typingSilent := modifier_absent typing _ typingKind (by simp)
    rw [holds.modifiers, List.filterMap_append, modified]
    simp [nameSilent, typingSilent]
  refine ⟨by rw [RawNode.view_kind, holds.kind, typed], ?_, ?_⟩
  · obtain ⟨visibility, fieldName⟩ := field
    cases visibility <;>
      simp only [Outline.property, written, ascribed, collected, Outline.visibilityOf, unhidden,
        Field.property] <;> rfl
  · refine holds.idle (by rw [typed]; rfl) ?_
    simp only [List.mem_append, List.mem_cons, List.not_mem_nil, or_false]
    rintro part (modifier | rfl | rfl)
    · exact quiet part modifier
    · rw [RawNode.view_under]
      exact named.idle rfl
    · rw [RawNode.view_under]
      exact typing_idle typing annotates

/-! Clauses. -/

theorem clause_texts (accepted : Kind → Bool) (itemType : String)
    (accepts : ∀ text, accepted (RawNode.kindOfType itemType text) = true)
    (names : List TypeName) (items : List RawNode)
    (spelled : List.Forall₂ (fun name => Spells itemType name.text) names items) :
    Outline.textsOf accepted (items.map RawNode.view) = names.map (·.text) := by
  induction spelled with
  | nil => rfl
  | cons spells _ ih =>
      rw [Outline.textsOf] at ih ⊢
      simp [spells.kind, accepts, spells.text, ih]

section Clause

variable {type itemType : String} {names : List TypeName} {clauses : List RawNode}
  (pictured : ClauseTree type itemType names clauses)

include pictured

theorem clause_found : RawNode.ofType? id type clauses = clauses.head? := by
  cases pictured with
  | absent => rfl
  | clause _ items node filled label holds spelled => simp [RawNode.ofType?, holds.type]

theorem clause_foreign (other : String) (apart : type ≠ other) :
    RawNode.ofType? id other clauses = none := by
  cases pictured with
  | absent => rfl
  | clause _ items node filled label holds spelled => simp [RawNode.ofType?, holds.type, apart]

theorem clause_unlabeled : ∀ node ∈ clauses, node.label = none := by
  cases pictured with
  | absent => simp
  | clause _ items node filled label holds spelled => simp [label]

theorem clause_bases (other : ∀ text, RawNode.kindOfType type text = .other)
    (plain : ∀ text, Outline.isPlainName (RawNode.kindOfType itemType text) = true) :
    ((clauses.head?.map RawNode.view).map Outline.basesOf).getD [] = names.map (·.text) := by
  cases pictured with
  | absent => rfl
  | clause _ items node filled label holds spelled =>
      have group : Outline.isPlainName node.view.kind = false := by
        rw [RawNode.view_kind, holds.kind, other]
        rfl
      simp only [List.head?_cons, Option.map_some, Option.getD_some, Outline.basesOf, group,
        Bool.false_eq_true, if_false]
      rw [holds.texts _ rfl, clause_texts _ itemType plain names items spelled]

theorem clause_interfaces
    (named : ∀ text, Outline.isTypeName (RawNode.kindOfType itemType text) = true) :
    ((clauses.head?.map RawNode.view).map fun clause =>
      Outline.textsOf Outline.isTypeName clause.children).getD [] = names.map (·.text) := by
  cases pictured with
  | absent => rfl
  | clause _ items node filled label holds spelled =>
      simp only [List.head?_cons, Option.map_some, Option.getD_some]
      rw [holds.texts _ rfl, clause_texts _ itemType named names items spelled]

theorem clause_idle (other : ∀ text, RawNode.kindOfType type text = .other)
    (quiet : ∀ text, idleKind (RawNode.kindOfType itemType text) = true) :
    ∀ node ∈ clauses, node.kind = .other ∧ Throughout Idle node.view := by
  cases pictured with
  | absent => simp
  | clause _ items node filled label holds spelled =>
      rw [List.forall_mem_singleton]
      refine ⟨holds.kind.trans (other _), holds.idle (by rw [other]; rfl) ?_⟩
      exact every_node _ _ spelled fun name item spells => spells.idle (quiet name.text)

end Clause

/-! The clauses of a declaration, which stand below the heritage of a class or on their own. -/

/-- What is asked of the nodes that stand between the name and the body of a declaration. -/
structure Heritage (declaration : Declaration) (heritage : List RawNode) : Prop where
  bases : (((((RawNode.heritage? id RawNode.children "extends_clause" heritage).or
      (RawNode.heritage? id RawNode.children "extends_type_clause" heritage)).map
        RawNode.view).map Outline.basesOf).getD []) = declaration.bases.map (·.text)
  interfaces : (((RawNode.heritage? id RawNode.children "implements_clause" heritage).map
      RawNode.view).map fun clause =>
        Outline.textsOf Outline.isTypeName clause.children).getD [] =
          declaration.interfaces.map (·.text)
  unlabeled : ∀ node ∈ heritage, node.label = none
  idle : ∀ node ∈ heritage, node.kind = .other ∧ Throughout Idle node.view

theorem gathered_quiet (clauses heritage : List RawNode) (gathers : Gathers clauses heritage)
    (below : ∀ node ∈ clauses, Throughout Idle node.view) :
    (∀ node ∈ heritage, node.label = none) ∧
      ∀ node ∈ heritage, node.kind = .other ∧ Throughout Idle node.view := by
  cases gathers with
  | absent => simp
  | heritage _ node filled label holds =>
      rw [List.forall_mem_singleton, List.forall_mem_singleton]
      exact ⟨label, holds.kind, holds.idle rfl below⟩

theorem gathered_clause (clauses heritage : List RawNode) (gathers : Gathers clauses heritage)
    (clause : String) (foreign : clause ∉ signs) (other : clause ≠ "class_heritage") :
    RawNode.heritage? id RawNode.children clause heritage = RawNode.ofType? id clause clauses := by
  cases gathers with
  | absent => rfl
  | heritage _ node filled label holds =>
      have apart : RawNode.ofType? id clause [node] = none := by
        simp [RawNode.ofType?, holds.type, other.symm]
      have found : RawNode.ofType? id "class_heritage" [node] = some node := by
        simp [RawNode.ofType?, holds.type]
      rw [RawNode.heritage?, apart, found, Option.none_or, Option.bind_some,
        holds.of_type clause foreign]

theorem class_heritage (name : TypeName) (base : Option TypeName) (interfaces : List TypeName)
    (fields : List Field) (heritage : List RawNode)
    (pictured : HeritageTree (.objectClass name base interfaces fields) heritage) :
    Heritage (.objectClass name base interfaces fields) heritage := by
  obtain ⟨extended, implemented, extending, implementing, gathers⟩ := pictured
  have gathered := gathered_clause (extended ++ implemented) heritage gathers
  have extendsFound : RawNode.ofType? id "extends_clause" (extended ++ implemented) =
      extended.head? := by
    rw [of_type_append, clause_found extending, clause_foreign implementing _ (by decide),
      Option.or_none]
  have extendsTypeFound :
      RawNode.ofType? id "extends_type_clause" (extended ++ implemented) = none := by
    rw [of_type_append, clause_foreign extending _ (by decide),
      clause_foreign implementing _ (by decide), Option.or_none]
  have implementsFound : RawNode.ofType? id "implements_clause" (extended ++ implemented) =
      implemented.head? := by
    rw [of_type_append, clause_found implementing, clause_foreign extending _ (by decide),
      Option.none_or]
  have below : ∀ node ∈ extended ++ implemented, Throughout Idle node.view :=
    List.forall_mem_append.mpr
      ⟨fun node member => (clause_idle extending (fun _ => rfl) (fun _ => rfl) node member).2,
        fun node member => (clause_idle implementing (fun _ => rfl) (fun _ => rfl) node member).2⟩
  obtain ⟨unlabeled, quiet⟩ := gathered_quiet _ heritage gathers below
  refine ⟨?_, ?_, unlabeled, quiet⟩
  · rw [gathered _ (by decide) (by decide), gathered _ (by decide) (by decide), extendsFound,
      extendsTypeFound, Option.or_none]
    exact clause_bases extending (fun _ => rfl) fun _ => rfl
  · rw [gathered _ (by decide) (by decide), implementsFound]
    exact clause_interfaces implementing fun _ => rfl

theorem interface_heritage (name : TypeName) (bases : List TypeName) (fields : List FieldName)
    (heritage : List RawNode) (pictured : HeritageTree (.interface name bases fields) heritage) :
    Heritage (.interface name bases fields) heritage := by
  have pictured : ClauseTree "extends_type_clause" "type_identifier" bases heritage := pictured
  have direct (clause : String) (other : "extends_type_clause" ≠ clause) :
      RawNode.heritage? id RawNode.children clause heritage = none := by
    rw [RawNode.heritage?, clause_foreign pictured clause other,
      clause_foreign pictured "class_heritage" (by decide)]
    rfl
  have extendsFound :
      RawNode.heritage? id RawNode.children "extends_type_clause" heritage = heritage.head? := by
    rw [RawNode.heritage?, clause_found pictured,
      clause_foreign pictured "class_heritage" (by decide)]
    exact Option.or_none
  refine ⟨?_, ?_, clause_unlabeled pictured, clause_idle pictured (fun _ => rfl) fun _ => rfl⟩
  · rw [direct "extends_clause" (by decide), Option.none_or, extendsFound]
    exact clause_bases pictured (fun _ => rfl) fun _ => rfl
  · rw [direct "implements_clause" (by decide)]
    rfl

theorem heritage_read (declaration : Declaration) (heritage : List RawNode)
    (pictured : HeritageTree declaration heritage) : Heritage declaration heritage := by
  cases declaration with
  | objectClass name base interfaces fields => exact class_heritage _ _ _ _ heritage pictured
  | interface name bases fields => exact interface_heritage _ _ _ heritage pictured

/-! Declarations. -/

def Declaration.nodeKind : Declaration → Kind
  | objectClass _ _ _ _ => .classDecl
  | interface _ _ _ => .interfaceDecl

theorem tree_kind (declaration : Declaration) (text : String) :
    RawNode.kindOfType declaration.treeType text = declaration.nodeKind := by
  cases declaration <;> rfl

theorem field_kind (declaration : Declaration) (text : String) :
    RawNode.kindOfType declaration.fieldType text = .property := by
  cases declaration <;> rfl

theorem body_kind (declaration : Declaration) (text : String) :
    RawNode.kindOfType declaration.bodyType text = .other := by
  cases declaration <;> rfl

theorem fields_listed (fields : List Field) (nodes : List Node)
    (shown : List.Forall₂ Shows fields nodes) :
    Outline.listed {} .property Outline.property nodes = fields.map Field.property ∧
      Outline.listed {} .method Outline.method nodes = [] := by
  induction shown with
  | nil => exact ⟨rfl, rfl⟩
  | cons shows _ ih =>
      rw [Outline.listed_cons {} .property, Outline.listed_cons {} .method, ih.1, ih.2]
      simp [Outline.listed, Outline.shown, shows.kind, shows.property]

theorem members_read (type : String) (fields : List Field) (members : List RawNode)
    (body : RawNode) (holds : Holds type members body)
    (shown : List.Forall₂ Shows fields (members.map RawNode.view)) :
    Outline.membersOf {} body.view = ⟨false, fields.map Field.property, []⟩ := by
  obtain ⟨properties, methods⟩ := fields_listed fields _ shown
  rw [Outline.members_direct, holds.listed _ _ _ (by decide), holds.listed _ _ _ (by decide),
    properties, methods]

/-- The node declares the entity, and nothing is collected from inside it. -/
structure Depicts (entity : Entity) (node : Node) : Prop where
  declared : Outline.declaration? {} node = some entity
  idle : ∀ child ∈ node.children, Throughout Idle child

section Declaration

variable (declaration : Declaration) (name body : RawNode) (heritage : List RawNode)
  (node : RawNode)
  (holds : Holds declaration.treeType (name.under "name" :: (heritage ++ [body.under "body"])) node)

include holds

theorem name_under : node.field? .name = some (name.under "name") := by
  simp only [RawNode.field?, RawNode.fieldAmong?, holds.labeled]
  rfl

theorem body_under (unlabeled : ∀ node ∈ heritage, node.label = none) :
    node.field? .body = some (body.under "body") := by
  have silent := Plain.unlabeled "body" heritage unlabeled
  simp only [RawNode.field?, RawNode.fieldAmong?, holds.labeled]
  rw [← List.singleton_append, labeled_append, labeled_append, silent]
  rfl

-- Neither the name nor the body has the type of a clause, so all clauses are in between.
theorem heritage_between (clause : String) (foreign : clause ∉ signs)
    (unnamed : name.type ≠ clause) (bodiless : body.type ≠ clause)
    (gathered : name.type ≠ "class_heritage") (apart : body.type ≠ "class_heritage") :
    RawNode.heritage? id RawNode.children clause node.children =
      RawNode.heritage? id RawNode.children clause heritage := by
  have single (node : RawNode) (label type : String) (other : node.type ≠ type) :
      RawNode.ofType? id type [node.under label] = none := by
    simp [RawNode.ofType?, RawNode.under, other]
  have direct (type : String) (foreign : type ∉ signs) (first : name.type ≠ type)
      (last : body.type ≠ type) :
      RawNode.ofType? id type node.children = RawNode.ofType? id type heritage := by
    rw [holds.of_type type foreign, ← List.singleton_append, of_type_append, of_type_append,
      single name "name" type first, single body "body" type last, Option.none_or, Option.or_none]
  rw [RawNode.heritage?, RawNode.heritage?, direct clause foreign unnamed bodiless,
    direct "class_heritage" (by decide) gathered apart]

end Declaration

/-- What the node of a declaration is read as, once the fields in its body are shown. -/
theorem declaration_entity (declaration : Declaration) (row : Nat) (name body : RawNode)
    (heritage members : List RawNode) (node : RawNode) (start : node.start = ⟨row, 0⟩)
    (named : Spells "type_identifier" declaration.name.text name)
    (inherited : Heritage declaration heritage) (bodied : Holds declaration.bodyType members body)
    (shown : List.Forall₂ Shows declaration.fields (members.map RawNode.view))
    (holds : Holds declaration.treeType
      (name.under "name" :: (heritage ++ [body.under "body"])) node) :
    Outline.classifier declaration.kind {} node.view = declaration.entity (row + 1) := by
  have clauses (clause : String) (foreign : clause ∉ signs)
      (clausal : clause ∉ ["type_identifier", "class_body", "interface_body"]) :
      RawNode.heritage? id RawNode.children clause node.children =
        RawNode.heritage? id RawNode.children clause heritage := by
    have apart (type : String)
        (asked : type ∈ ["type_identifier", "class_body", "interface_body"]) : type ≠ clause :=
      fun same => clausal (same ▸ asked)
    have bodyAsked : body.type ∈ ["type_identifier", "class_body", "interface_body"] := by
      rw [bodied.type]
      cases declaration <;> simp [Declaration.bodyType]
    have bodyApart : body.type ≠ "class_heritage" := by
      rw [bodied.type]
      cases declaration <;> simp [Declaration.bodyType]
    refine heritage_between declaration name body heritage node holds clause foreign
      (apart _ ?_) (apart _ bodyAsked) ?_ bodyApart
    · simp [named.type]
    · simp [named.type]
  have extending : node.field? .extending =
      (RawNode.heritage? id RawNode.children "extends_clause" heritage).or
        (RawNode.heritage? id RawNode.children "extends_type_clause" heritage) := by
    rw [RawNode.field?, RawNode.fieldAmong?, clauses _ (by decide) (by decide),
      clauses _ (by decide) (by decide)]
  have implementing : node.field? .implementing =
      RawNode.heritage? id RawNode.children "implements_clause" heritage := by
    rw [RawNode.field?, RawNode.fieldAmong?, clauses _ (by decide) (by decide)]
  have titled : Outline.nameOf node.view = declaration.name.text :=
    word_named (typeWord declaration.name) node.view (by
      simp [Node.fieldText?, name_under declaration name body heritage node holds, named.text])
  have filled : declaration.name.text ≠ "" := word_filled (typeWord declaration.name)
  have unmodified : Outline.modifiersOf node.view = Modifiers.empty := by
    have nameSilent := modifier_absent name .typeName named.kind (by simp)
    have bodySilent := modifier_absent body .other (bodied.kind.trans (body_kind _ _)) (by simp)
    have between : heritage.filterMap (fun part => Outline.modifier? part.view) = [] :=
      List.filterMap_eq_nil_iff.mpr fun part member =>
        modifier_absent part .other (inherited.idle part member).1 (by simp)
    rw [holds.modifiers, List.filterMap_cons, List.filterMap_append, between]
    simp [nameSilent, bodySilent]
    rfl
  have contained := body_under declaration name body heritage node holds inherited.unlabeled
  simp only [Outline.classifier, Outline.heading, Entity.named, titled, unmodified,
    RawNode.view_position, start, RawNode.view_field, extending, implementing, inherited.bases,
    inherited.interfaces, contained, Option.map_some, Option.getD_some, RawNode.view_under,
    members_read _ _ _ body bodied shown]
  simp [filled, Point.position, Declaration.entity]

theorem declaration_depicts (declaration : Declaration) (row : Nat) (node : RawNode)
    (pictured : DeclarationTree declaration row node) :
    Depicts (declaration.entity (row + 1)) node.view := by
  obtain ⟨name, heritage, members, body, start, named, inherited, fielded, bodied, holds⟩ :=
    pictured
  have read := heritage_read declaration heritage inherited
  have shown : List.Forall₂ Shows declaration.fields (members.map RawNode.view) := by
    rw [List.forall₂_map_right_iff]
    exact fielded.imp fun field member => field_shown _ field member (field_kind declaration)
  have kind : node.view.kind = declaration.nodeKind := by
    rw [RawNode.view_kind, holds.kind, tree_kind]
  refine ⟨?_, holds.inside ?_⟩
  · rw [← declaration_entity declaration row name body heritage members node start named read bodied
      shown holds]
    cases declaration <;> simp only [Outline.declaration?, kind] <;> rfl
  · have membersQuiet : ∀ member ∈ members, Throughout Idle member.view := by
      rw [← List.forall_mem_map]
      exact every_node _ _ shown fun _ _ shows => shows.idle
    simp only [List.mem_cons, List.mem_append, List.not_mem_nil, or_false]
    rintro part (rfl | between | rfl)
    · rw [RawNode.view_under]
      exact named.idle rfl
    · exact (read.idle part between).2
    · rw [RawNode.view_under]
      exact bodied.idle (by rw [body_kind]; rfl) membersQuiet

end SourceAtlas.Plain
