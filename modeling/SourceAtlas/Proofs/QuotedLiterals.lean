import SourceAtlas.Proofs.DirectMembers
import SourceAtlas.Proofs.ImportedNames
import SourceAtlas.Proofs.StrippedEnds

/-!
Names that are written as literals. The module of an import is one, and so may be the name of a
member of an enumeration. What is reported is what stands between the quote marks of the literal.
But all quote marks at the ends are dropped, whatever their sort, so content that starts or ends
with one loses it too.
-/

namespace SourceAtlas

namespace Text

/-- A literal: its content between two quote marks. -/
def quoted (mark : Char) (content : String) : String :=
  String.ofList (mark :: (content.toList ++ [mark]))

/-- No quote mark stands at either end. -/
structure Unframed (text : String) : Prop where
  front : text.toList.head?.any isQuote = false
  back : text.toList.getLast?.any isQuote = false

instance (text : String) : Decidable (Unframed text) :=
  decidable_of_iff (text.toList.head?.any isQuote = false ∧ text.toList.getLast?.any isQuote = false)
    ⟨fun ⟨front, back⟩ => ⟨front, back⟩, fun unframed => ⟨unframed.front, unframed.back⟩⟩

/-- The name is the content up to the quote marks at its ends. It is all of the content exactly when
there are none. -/
structure Unquoted (content name : String) : Prop where
  inside : ∃ before after, content.toList = before ++ (name.toList ++ after) ∧
    (∀ c ∈ before, isQuote c = true) ∧ ∀ c ∈ after, isQuote c = true
  unframed : Unframed name
  whole : name = content ↔ Unframed content

theorem unquote_chars (content : String) :
    (unquote content).toList = stripEnds isQuote content.toList :=
  String.toList_ofList

theorem unframed_iff (text : String) : Unframed text ↔ unquote text = text := by
  rw [← String.toList_inj, unquote_chars, strip_ends_iff]
  constructor
  · intro unframed
    exact ⟨unframed.front, unframed.back⟩
  · rintro ⟨front, back⟩
    exact ⟨front, back⟩

theorem unquoted_iff (content name : String) : Unquoted content name ↔ unquote content = name := by
  constructor
  · rintro ⟨⟨before, after, whole, front, back⟩, unframed, _⟩
    have same := (unframed_iff name).mp unframed
    rw [← String.toList_inj, unquote_chars] at same ⊢
    rw [whole, strip_ends_padded isQuote before _ after front back, same]
  · rintro rfl
    constructor
    · rw [unquote_chars]
      exact strip_ends_inside isQuote content.toList
    · constructor
      · rw [unquote_chars]
        exact strip_ends_front isQuote content.toList
      · rw [unquote_chars]
        exact strip_ends_back isQuote content.toList
    · exact (unframed_iff content).symm

example : Unframed " it's " ∧ ¬ Unframed "'m's" := by
  decide

theorem quote_not_blank (mark : Char) (quote : isQuote mark = true) : isBlank mark = false := by
  simp only [isQuote, Bool.or_eq_true, beq_iff_eq] at quote
  rcases quote with (double | single) | back
  · simp [isBlank, double, blankRanges]
  · simp [isBlank, single, blankRanges]
  · simp [isBlank, back, blankRanges]

theorem unquote_quoted (mark : Char) (content : String) (quote : isQuote mark = true) :
    unquote (quoted mark content) = unquote content := by
  have marks : ∀ c ∈ [mark], isQuote c = true := List.forall_mem_singleton.mpr quote
  have padded := strip_ends_padded isQuote [mark] content.toList [mark] marks marks
  rw [unquote, quoted, String.toList_ofList, ← List.singleton_append, padded, unquote]

theorem trim_quoted (mark : Char) (content : String) (quote : isQuote mark = true) :
    trim (quoted mark content) = quoted mark content := by
  have solid := quote_not_blank mark quote
  have kept : stripEnds isBlank (mark :: (content.toList ++ [mark])) =
      mark :: (content.toList ++ [mark]) := by
    apply (strip_ends_iff isBlank _).mpr
    constructor
    · simpa using solid
    · rw [← List.cons_append, List.getLast?_concat]
      simpa using solid
  rw [trim, quoted, String.toList_ofList, kept]

/-- Blanks inside of a literal are kept, also where blanks around it would not count. -/
theorem unquote_trimmed_quoted (mark : Char) (content : String) (quote : isQuote mark = true) :
    unquoteTrimmed (quoted mark content) = unquote content := by
  rw [unquoteTrimmed, trim_quoted mark content quote, unquote_quoted mark content quote]

end Text

open SourceAtlas.Tree SourceAtlas.Text

namespace Outline

/-! Members of enumerations. -/

def isEnumMember (node : Node) : Bool :=
  node.kind == .propertyName || isLiteral node || node.kind == .enumMember

/-- The text of the literal that a member is written as, alone or with an initial value. -/
def memberLiteral? (node : Node) : Option String :=
  match node.kind with
  | .stringLiteral => some node.text
  | .enumMember => node.fieldText? .name
  | _ => none

theorem enum_member_named (node : Node) (text : String) (written : memberLiteral? node = some text) :
    enumMemberName? node = some (unquote text) := by
  unfold memberLiteral? at written
  split at written
  · rename_i kind
    cases written
    simp [enumMemberName?, kind]
  · rename_i kind
    simp [enumMemberName?, kind, written]
  · cases written

theorem enum_member_iff (node : Node) :
    isEnumMember node = (enumMemberName? node).isSome := by
  unfold isEnumMember isLiteral enumMemberName?
  cases node.kind <;> rfl

/-- The members of a body, one for one, with the names that they are given. -/
theorem enum_members_named (nodes : List Node) :
    List.Forall₂ (fun name node => enumMemberName? node = some name)
      (nodes.filterMap enumMemberName?) (nodes.filter isEnumMember) := by
  induction nodes with
  | nil => exact .nil
  | cons node rest ih =>
      have listed := enum_member_iff node
      cases named : enumMemberName? node with
      | none =>
          rw [named] at listed
          rw [List.filterMap_cons_none named, List.filter_cons_of_neg (by simp [listed])]
          exact ih
      | some name =>
          rw [named] at listed
          rw [List.filterMap_cons_some named, List.filter_cons_of_pos listed]
          exact .cons named ih

theorem described_enumeration (options : AnalysisOptions) (entity : Entity) (node body : Node)
    (described : Describes options entity node) (declares : node.kind = .enumDecl)
    (inside : node.field? .body = some body) :
    entity.properties = (body.children.filterMap enumMemberName?).map fun name =>
      { name, type := enumMemberType } := by
  have rule := described.rule
  simp only [FollowsRule, declares] at rule
  rw [rule]
  simp [enumeration, inside]

/-- The members of an enumeration are those in its body, and the name of each that is written as a
literal is allowed by the mark and the content of the literal. -/
def MembersRead (allowed : Char → String → String → Prop) (members : List Property)
    (body : Node) : Prop :=
  List.Forall₂ (fun member child => ∀ mark content, isQuote mark = true →
      memberLiteral? child = some (quoted mark content) → allowed mark content member.name)
    members (body.children.filter isEnumMember)

/-- Every literal in a module position, and every literal that is a member of an enumeration, is
reported with a name that its mark and its content allow. -/
structure LiteralsRead (allowed : Char → String → String → Prop) (options : AnalysisOptions)
    (root : Node) : Prop where
  modules : List.Forall₂ (fun item node => ∀ mark content, isQuote mark = true →
      node.fieldText? .source = some (quoted mark content) → allowed mark content item.module)
    (imports root) (outermost isImport root)
  members : List.Forall₂ (fun entity occurrence => occurrence.2.kind = .enumDecl →
      ∀ body, occurrence.2.field? .body = some body →
        MembersRead allowed entity.properties body)
    (entities options root) ((occurrences [] root).filter (reported options))

theorem described_literals (options : AnalysisOptions) (entity : Entity) (node body : Node)
    (described : Describes options entity node) (declares : node.kind = .enumDecl)
    (inside : node.field? .body = some body) :
    MembersRead (fun _ content name => Unquoted content name) entity.properties body := by
  rw [MembersRead, described_enumeration options entity node body described declares inside,
    List.forall₂_map_left_iff]
  apply (enum_members_named body.children).imp
  intro name child named mark content quote written
  have read := enum_member_named child _ written
  rw [named, unquote_quoted mark content quote, Option.some.injEq] at read
  exact (unquoted_iff content name).mpr read.symm

theorem import_literal (node : Node) (mark : Char) (content : String) (quote : isQuote mark = true)
    (source : node.fieldText? .source = some (quoted mark content)) :
    Unquoted content (importOf node).module := by
  have read : (importOf node).module = unquote content := by
    rw [import_read, importedModule, source]
    exact unquote_trimmed_quoted mark content quote
  exact (unquoted_iff content _).mpr read.symm

/-- Of every literal the content is reported up to the quote marks at its ends. -/
theorem literals_lose_outer_quotes (options : AnalysisOptions) (root : Node) :
    LiteralsRead (fun _ content name => Unquoted content name) options root := by
  constructor
  · rw [imports_outermost, List.forall₂_map_left_iff, List.forall₂_same]
    intro node _ mark content quote source
    exact import_literal node mark content quote source
  · apply entities_related
    intro entity occurrence described declares body inside
    exact described_literals options entity occurrence.2 body described declares inside

/-! Literals that hold quote marks of another sort than their own. -/

def literal (content : String) : Node :=
  { groupOf .stringLiteral [] with text := quoted '"' content }

def markedImport : Node :=
  { groupOf .importDecl [literal "'m's"] with fields := [(.source, literal "'m's")] }

/-- A member with an initial value and one without. -/
def markedEnum : Node :=
  let valued := memberNode .enumMember .stringLiteral (quoted '"' " it's ") []
  let body := groupOf .other [valued, literal "'"]
  { groupOf .enumDecl [body] with fields := [(.body, body)] }

def markedProgram : Node :=
  groupOf .other [markedImport, markedEnum]

theorem literals_lose_outer_quotes_marked :
    ∃ item entity, imports markedProgram = [item] ∧ entities {} markedProgram = [entity] ∧
      item.module = "m's" ∧ Unquoted "'m's" item.module ∧
      entity.properties.map (·.name) = [" it's ", ""] ∧
      List.Forall₂ Unquoted [" it's ", "'"] (entity.properties.map (·.name)) := by
  obtain ⟨modules, members⟩ := literals_lose_outer_quotes {} markedProgram
  obtain ⟨item, items, module, itemsEnd, imported⟩ := List.forall₂_cons_right_iff.mp modules
  obtain ⟨entity, others, names, othersEnd, declared⟩ := List.forall₂_cons_right_iff.mp members
  cases itemsEnd
  cases othersEnd
  obtain ⟨valued, later, inside, more, split⟩ := List.forall₂_cons_right_iff.mp (names rfl _ rfl)
  obtain ⟨alone, rest, only, nothing, last⟩ := List.forall₂_cons_right_iff.mp more
  cases nothing
  have moduleText : (imports markedProgram).map (·.module) = ["m's"] := by decide +kernel
  have memberTexts : (entities {} markedProgram).map (fun entity =>
      entity.properties.map (·.name)) = [[" it's ", ""]] := by decide +kernel
  rw [imported] at moduleText
  rw [declared] at memberTexts
  refine ⟨item, entity, imported, declared, ?_, module '"' "'m's" rfl rfl, ?_, ?_⟩
  · simpa using moduleText
  · simpa using memberTexts
  · rw [split, last]
    exact .cons (inside '"' " it's " rfl rfl) (.cons (only '"' "'" rfl rfl) .nil)

def markedSource : String :=
  "enum Mark \x7b\n  '\"' = 1,\n  \"'\"\n\x7d\nimport a from \"'m'\";\n"

/-- Literals without their own mark in them and without an escape do not keep their content. -/
theorem inner_quotes_lost :
    (imports (TypeScript.parse .typescript markedSource)).map (·.module) = ["m"] ∧
      (entities {} (TypeScript.parse .typescript markedSource)).map (fun entity =>
        entity.properties.map (·.name)) = [["", ""]] ∧
      ¬ ∀ options root, LiteralsRead (fun mark content name =>
        mark ∉ content.toList → '\\' ∉ content.toList → name = content) options root := by
  refine ⟨by decide +kernel, by decide +kernel, ?_⟩
  intro kept
  obtain ⟨item, items, module, _, imported⟩ :=
    List.forall₂_cons_right_iff.mp (kept {} markedProgram).modules
  have moduleText : (imports markedProgram).head?.map (·.module) = some "m's" := by decide +kernel
  rw [imported] at moduleText
  have same := module '"' "'m's" rfl rfl (by decide) (by decide)
  simp [same] at moduleText

end Outline

end SourceAtlas
