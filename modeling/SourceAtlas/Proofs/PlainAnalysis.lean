import SourceAtlas.Analyze
import SourceAtlas.Proofs.PlainDeclarations
import SourceAtlas.Proofs.PlainOutline

/-!
Plain sources, analyzed: the analysis of what was written is what was meant.

Any tree that pictures the declarations gives their entities, because a traversal finds each of them
at the top and nothing inside it. The tree that is read here does picture them: the text is followed
declaration by declaration, each behind the line feed of the one before it, so that the row of a
header is the number of line feeds passed.
-/

open SourceAtlas.Tree SourceAtlas.TypeScript SourceAtlas.TypeScript.Parser

namespace SourceAtlas.Plain

/-! Traversals of nodes that depict entities. -/

theorem Depicts.declares {entity : Entity} {node : Node} (depicts : Depicts entity node) :
    Outline.declares node = true := by
  by_contra silent
  have none := (Outline.declaration_none_iff {} node).mpr (Bool.eq_false_iff.mpr silent)
  rw [depicts.declared] at none
  contradiction

theorem declares_apart (node : Node) (declares : Outline.declares node = true) :
    node.kind ≠ .declarator ∧ node.kind ≠ .importDecl ∧ node.kind ≠ .exportDecl := by
  rw [Outline.declares] at declares
  cases kind : node.kind <;> simp_all

section Still

variable {State : Type} (visit : Visit State)

theorem recurse_all_still (depth : Nat) (nodes : List Node)
    (each : ∀ node ∈ nodes, ∀ state, recurse visit state depth node = state) (state : State) :
    recurseAll visit state depth nodes = state := by
  induction nodes with
  | nil => rw [recurseAll]
  | cons node rest ih =>
      rw [recurseAll, each node List.mem_cons_self]
      exact ih fun later member => each later (List.mem_cons_of_mem node member)

variable (still : ∀ state node depth, Idle node → visit state node depth = (.descend, state))

include still

theorem recurse_idle (state : State) (depth : Nat) (node : Node) (idle : Throughout Idle node) :
    recurse visit state depth node = state := by
  induction node using Node.child_induction generalizing state with
  | step node ih =>
      obtain ⟨silent, below⟩ := (throughout_iff Idle node).mp idle
      rw [recurse_eq, still state node depth silent]
      exact recurse_all_still visit depth node.children
        (fun child member state => ih child member state (below child member)) state

theorem recurse_inside (node : Node) (idle : ∀ child ∈ node.children, Throughout Idle child)
    (state : State) (depth : Nat) : recurseAll visit state depth node.children = state :=
  recurse_all_still visit depth node.children
    (fun child member state => recurse_idle visit still state depth child (idle child member)) state

/-- A traversal that only passes declarations finds nothing among them. -/
theorem walk_depicted (entities : List Entity) (root : Node) (idle : Idle root)
    (depicted : List.Forall₂ Depicts entities root.children)
    (passing : ∀ state node depth, Outline.declares node = true →
      visit state node depth = (.descend, state)) (state : State) :
    walk visit state root = state := by
  rw [walk_exact, recurse_eq, still state root 0 idle]
  apply recurse_all_still visit 0 root.children
  refine every_node entities root.children depicted ?_
  intro entity node depicts state
  rw [recurse_eq, passing state node 0 depicts.declares]
  exact recurse_inside visit still node depicts.idle state 0

end Still

theorem idle_silent (node : Node) (idle : Idle node) :
    Outline.declares node = false ∧ node.kind ≠ .declarator ∧ node.kind ≠ .importDecl ∧
      node.kind ≠ .exportDecl := by
  have quiet : idleKind node.kind = true := idle
  rw [Outline.declares]
  cases kind : node.kind <;> simp_all [idleKind]

theorem declaration_still (found : Outline.Found) (node : Node) (depth : Nat) (idle : Idle node) :
    Outline.visitDeclaration {} found node depth = (.descend, found) := by
  obtain ⟨silent, declarator, _, _⟩ := idle_silent node idle
  have undeclared := (Outline.declaration_none_iff {} node).mpr silent
  simp [Outline.visitDeclaration, declarator, undeclared]

theorem entities_collected (entities : List Entity) (nodes : List Node)
    (depicted : List.Forall₂ Depicts entities nodes) (before : List Entity) :
    recurseAll (Outline.visitDeclaration {}) ⟨none, before⟩ 0 nodes =
      ⟨none, before ++ entities⟩ := by
  induction depicted generalizing before with
  | nil => simp [recurseAll]
  | @cons entity node others rest depicts _ ih =>
      have visited : Outline.visitDeclaration {} ⟨none, before⟩ node 0 =
          (.enter, ⟨none, before ++ [entity]⟩) := by
        have declarator := (declares_apart node depicts.declares).1
        simp [Outline.visitDeclaration, declarator, depicts.declared]
      have inside := recurse_inside _ declaration_still node depicts.idle
        ⟨none, before ++ [entity]⟩ 1
      rw [recurseAll, recurse_eq, visited]
      simp only [inside, ih, List.append_assoc, List.singleton_append]

section Depicted

variable (entities : List Entity) (root : Node) (idle : Idle root)
  (depicted : List.Forall₂ Depicts entities root.children)

include idle depicted

theorem entities_depicted : Outline.entities {} root = entities := by
  rw [Outline.entities, walk_exact, recurse_eq, declaration_still {} root 0 idle]
  exact congrArg Outline.Found.entities (entities_collected entities root.children depicted [])

theorem imports_depicted : Outline.imports root = [] := by
  refine walk_depicted Outline.visitImport ?_ entities root idle depicted ?_ []
  · intro imports node depth idle
    simp [Outline.visitImport, (idle_silent node idle).2.2.1]
  · intro imports node depth declares
    simp [Outline.visitImport, (declares_apart node declares).2.1]

theorem exports_depicted : Outline.exports root = [] := by
  refine walk_depicted Outline.visitExport ?_ entities root idle depicted ?_ []
  · intro names node depth idle
    simp [Outline.visitExport, (idle_silent node idle).2.2.2]
  · intro names node depth declares
    simp [Outline.visitExport, (declares_apart node declares).2.2]

end Depicted

/-! Any tree of a plain source. -/

theorem rows_depict (row : Nat) (declarations : List Declaration) (nodes : List RawNode)
    (rows : RowTrees row declarations nodes) :
    List.Forall₂ Depicts (entitiesFrom (row + 1) declarations) (nodes.map RawNode.view) := by
  induction rows with
  | nil => exact .nil
  | cons row declaration rest node nodes pictured _ ih =>
      rw [Nat.add_right_comm] at ih
      exact .cons (declaration_depicts declaration row node pictured) ih

theorem source_tree_analyzed (language : Language) (declarations : List Declaration)
    (root : RawNode) (pictured : SourceTree declarations root) :
    analyzeTree {} language.name (source declarations) root.view =
      analysis language declarations := by
  have idle : Idle root.view := by
    rw [Idle, RawNode.view_kind, RawNode.kind, pictured.named, if_pos rfl, pictured.type]
    rfl
  have depicted : List.Forall₂ Depicts (entitiesFrom 1 declarations) root.view.children := by
    rw [RawNode.view_children]
    exact rows_depict 0 declarations root.children pictured.rows
  simp only [analyzeTree, entities_depicted _ root.view idle depicted,
    imports_depicted _ root.view idle depicted, exports_depicted _ root.view idle depicted,
    derive_entities, line_count_source, entities_from_length, analysis]

/-! The tree that is read here. -/

theorem grammar_ties (language : Language) (depth : Nat) :
    Ties (grammar language (depth + 1)) (grammar language depth) :=
  ⟨rfl, rfl⟩

theorem expression_refuses_finish (language : Language) (inner : Grammar) (mode : ExpressionMode)
    (passed : List Char) (gap : Gap) :
    expression language inner mode (Place.facing passed [.finish gap]) = none := by
  have operators : many leadingOperator (Place.facing passed [.finish gap]) =
      some ([], Place.facing passed [.finish gap]) := by
    apply many_stops
    simp [leadingOperator, Token.isAnyMark, Token.isAnyWord, Token.isWordOf]
  simp [expression, operand, operators, primary]

theorem statement_refuses_finish (language : Language) (depth : Nat) (passed : List Char)
    (gap : Gap) :
    statement (grammar language (depth + 1)) (Place.facing passed [.finish gap]) = none := by
  have refused : grammar language (depth + 1) (.expression {})
      (Place.facing passed [.finish gap]) = none :=
    expression_refuses_finish language (grammar language depth) {} passed gap
  simp [statement, expressionStatement, Grammar.sequence, sepBy1, refused]

/-- Statements of a program, and tokens that belong to none. -/
def programItem (language : Language) (depth : Nat) : Parser RawNode :=
  grammar language (depth + 2) .statement <|> strayToken

theorem items_take (language : Language) (depth : Nat) (declarations : List Declaration)
    (passed : List Char) (gap : Gap) (row : Nat)
    (here : (passed ++ gap.chars).foldl Point.past Point.start = ⟨row, 0⟩) :
    ∃ nodes last, many (programItem language depth)
        (Place.facing passed (sourceLexemes gap declarations)) = some (nodes, last) ∧
      RowTrees row declarations nodes := by
  induction declarations generalizing passed gap row with
  | nil =>
      have refused : programItem language depth (Place.facing passed [.finish gap]) = none := by
        rw [programItem, or_else_run, grammar, statement_refuses_finish]
        simp [strayToken]
      exact ⟨[], _, many_stops _ _ refused, .nil row⟩
  | cons declaration rest ih =>
      obtain ⟨node, taken, pictured⟩ := statement_takes (grammar language (depth + 1)) passed
        (sourceLexemes .broken rest) (grammar language depth) (grammar_ties language depth)
        (spaced_source rest) gap row here declaration
      obtain ⟨nodes, last, others, rows⟩ :=
        ih _ .broken _ (row_behind declaration passed gap row here)
      have first : programItem language depth
          (Place.facing passed (sourceLexemes gap (declaration :: rest))) =
            some (node, Place.facing (passed ++ spell (declaration.lexemes gap))
              (sourceLexemes .broken rest)) := by
        rw [Takes] at taken
        rw [programItem, or_else_run, grammar, sourceLexemes, taken, Option.some_or]
      have solid : spell (declaration.lexemes gap) ≠ [] := by
        simp [Declaration.lexemes, Lexeme.spelled, Gap.chars]
      refine ⟨node :: nodes, last, ?_, .cons row declaration rest node nodes pictured rows⟩
      rw [many_continues _ _ _ node first (facing_shorter passed _ _ solid), others]
      rfl

theorem source_opens (declarations : List Declaration) :
    interpreterLine (source declarations).toList = none := by
  cases declarations with
  | nil => rfl
  | cons declaration rest =>
      rw [source_cons]
      cases declaration <;>
        simp [written, Declaration.lines, Declaration.header, Declaration.keyword, interpreterLine]

theorem raw_tree_pictures (language : Language) (declarations : List Declaration) :
    SourceTree declarations (rawTree language (source declarations)) := by
  let cursor := Cursor.ofText (source declarations)
  have facing : Place.ofCursor cursor = Place.facing [] (sourceLexemes .joined declarations) := by
    rw [Place.facing, spell_source]
    rfl
  obtain ⟨nodes, last, taken, rows⟩ := items_take language (4 * cursor.left + 2) declarations
    [] .joined 0 rfl
  rw [← facing] at taken
  have opening : takeRaw interpreterLine (Place.ofCursor cursor) = none := by
    simp [takeRaw, cursor, Place.ofCursor, Cursor.ofText, source_opens]
  have run : program language (4 * cursor.left + 4) (Place.ofCursor cursor) =
      some (nodeWith (Place.ofCursor cursor).token.start "program" nodes, last) := by
    rw [programItem] at taken
    simp only [program, bind_run, here_run, optional_run, opening, Option.bind_some,
      Option.map_none, Option.getD_none, taken, pure_run]
  have tree : rawTree language (source declarations) =
      nodeWith (Place.ofCursor cursor).token.start "program" nodes := by
    simp only [rawTree]
    rw [run]
  rw [tree]
  exact ⟨rfl, rfl, rows⟩

/-! Whole sources. -/

theorem tree_analyzed (reader : TreeReader) (language : Language)
    (declarations : List Declaration) (root : RawNode)
    (read : reader.tree language (source declarations) = .ok root)
    (pictured : SourceTree declarations root) :
    analyzeWith reader (source declarations) language {} =
      .ok (analysis language declarations) := by
  have accepted : AnalysisOptions.validate {} = .ok () := rfl
  rw [analyzeWith, accepted, read, ← source_tree_analyzed language declarations root pictured]
  rfl

/-- The analysis of a plain source is what was written, by any reader whose tree pictures the
declarations and by the one at hand. -/
theorem plain_source_analyzed (language : Language) (declarations : List Declaration) :
    (∀ reader root, reader.tree language (source declarations) = .ok root →
        SourceTree declarations root →
        analyzeWith reader (source declarations) language {} =
          .ok (analysis language declarations)) ∧
      analyze (source declarations) language {} = .ok (analysis language declarations) := by
  constructor
  · intro reader root read pictured
    exact tree_analyzed reader language declarations root read pictured
  · exact tree_analyzed TypeScript.reader language declarations _ rfl
      (raw_tree_pictures language declarations)

/-! A class and an interface, and the tree a grammar gives for them, with all its keywords and
marks. -/

namespace Pride

def lion : Declaration :=
  .objectClass ⟨"Lion", by decide⟩ (some ⟨"Cat", by decide⟩)
    [⟨"Wild", by decide⟩, ⟨"Loud", by decide⟩]
    [⟨.pub, ⟨"p1", by decide⟩⟩, ⟨.priv, ⟨"p20", by decide⟩⟩]

def wild : Declaration :=
  .interface ⟨"Wild", by decide⟩ [⟨"Loud", by decide⟩] [⟨"p3", by decide⟩]

def sign (mark : Nat) (text : String) (start : Point) : RawNode :=
  { mark, label := none, type := text, named := false, text, start, children := [] }

def phrase (mark : Nat) (type text : String) (start : Point) (children : List RawNode) : RawNode :=
  { mark, label := none, type, named := true, text, start, children }

def word (mark : Nat) (type text : String) (start : Point) : RawNode :=
  phrase mark type text start []

/-- The type of a field, from its colon on. -/
def typing (mark row column : Nat) : RawNode :=
  phrase mark "type_annotation" ": number" ⟨row, column⟩
    [sign (mark + 1) ":" ⟨row, column⟩,
      phrase (mark + 2) "predefined_type" "number" ⟨row, column + 2⟩
        [sign (mark + 3) "number" ⟨row, column + 2⟩]]

def extending : RawNode :=
  phrase 5 "extends_clause" "extends Cat" ⟨0, 11⟩
    [sign 6 "extends" ⟨0, 11⟩, (word 7 "identifier" "Cat" ⟨0, 19⟩).under "value"]

def implementing : RawNode :=
  phrase 8 "implements_clause" "implements Wild, Loud" ⟨0, 23⟩
    [sign 9 "implements" ⟨0, 23⟩, word 10 "type_identifier" "Wild" ⟨0, 34⟩, sign 11 "," ⟨0, 38⟩,
      word 12 "type_identifier" "Loud" ⟨0, 40⟩]

def heritage : RawNode :=
  phrase 4 "class_heritage" "extends Cat implements Wild, Loud" ⟨0, 11⟩ [extending, implementing]

def shown : RawNode :=
  phrase 15 "public_field_definition" "p1: number" ⟨1, 2⟩
    [(word 16 "property_identifier" "p1" ⟨1, 2⟩).under "name", (typing 17 1 4).under "type"]

def access : RawNode :=
  phrase 23 "accessibility_modifier" "private" ⟨2, 2⟩ [sign 24 "private" ⟨2, 2⟩]

def hidden : RawNode :=
  phrase 22 "public_field_definition" "private p20: number" ⟨2, 2⟩
    [access, (word 25 "property_identifier" "p20" ⟨2, 10⟩).under "name",
      (typing 26 2 13).under "type"]

def lionBody : RawNode :=
  phrase 13 "class_body" "\x7b\n  p1: number;\n  private p20: number;\n\x7d" ⟨0, 45⟩
    [sign 14 "\x7b" ⟨0, 45⟩, shown, sign 21 ";" ⟨1, 12⟩, hidden, sign 30 ";" ⟨2, 21⟩,
      sign 31 "\x7d" ⟨3, 0⟩]

def lionNode : RawNode :=
  phrase 1 "class_declaration"
    "class Lion extends Cat implements Wild, Loud \x7b\n  p1: number;\n  private p20: number;\n\x7d"
    ⟨0, 0⟩
    [sign 2 "class" ⟨0, 0⟩, (word 3 "type_identifier" "Lion" ⟨0, 6⟩).under "name", heritage,
      lionBody.under "body"]

def widening : RawNode :=
  phrase 35 "extends_type_clause" "extends Loud" ⟨4, 15⟩
    [sign 36 "extends" ⟨4, 15⟩, (word 37 "type_identifier" "Loud" ⟨4, 23⟩).under "type"]

def signature : RawNode :=
  phrase 40 "property_signature" "p3: number" ⟨5, 2⟩
    [(word 41 "property_identifier" "p3" ⟨5, 2⟩).under "name", (typing 42 5 4).under "type"]

def wildBody : RawNode :=
  phrase 38 "interface_body" "\x7b\n  p3: number;\n\x7d" ⟨4, 28⟩
    [sign 39 "\x7b" ⟨4, 28⟩, signature, sign 46 ";" ⟨5, 12⟩, sign 47 "\x7d" ⟨6, 0⟩]

def wildNode : RawNode :=
  phrase 32 "interface_declaration" "interface Wild extends Loud \x7b\n  p3: number;\n\x7d" ⟨4, 0⟩
    [sign 33 "interface" ⟨4, 0⟩, (word 34 "type_identifier" "Wild" ⟨4, 10⟩).under "name", widening,
      wildBody.under "body"]

def root : RawNode :=
  phrase 0 "program" (source [lion, wild]) ⟨0, 0⟩ [lionNode, wildNode]

def reader : TreeReader :=
  { load := fun _ => .ok (), read? := fun _ _ => some root }

theorem spells_word (mark : Nat) (type text : String) (start : Point) :
    Spells type text (word mark type text start) :=
  ⟨rfl, rfl, rfl, by simp [word, phrase]⟩

theorem spells_under (mark : Nat) (type text label : String) (start : Point) :
    Spells type text ((word mark type text start).under label) :=
  ⟨rfl, rfl, rfl, by simp [word, phrase, RawNode.under]⟩

theorem signifies_sign (mark : Nat) (text : String) (start : Point) (known : text ∈ signs) :
    Signifies (sign mark text start) :=
  ⟨rfl, rfl, known, rfl⟩

theorem annotates_typing (mark row column : Nat) : Annotates (typing mark row column) := by
  refine ⟨rfl, _, ⟨rfl, rfl, rfl, ?_⟩, rfl, rfl, rfl, ?_⟩
  · simp [phrase, sign]
  · simpa [typing, phrase, sign] using signifies_sign (mark + 1) ":" ⟨row, column⟩ (by decide)

theorem lion_pictured : DeclarationTree lion 0 lionNode := by
  have named := spells_word 3 "type_identifier" "Lion" ⟨0, 6⟩
  have extended : ClauseTree "extends_clause" "identifier" [⟨"Cat", by decide⟩] [extending] :=
    .clause _ _ extending (by simp) rfl ⟨rfl, rfl, rfl, by decide⟩
      (.cons (spells_under 7 "identifier" "Cat" "value" ⟨0, 19⟩) .nil)
  have implemented : ClauseTree "implements_clause" "type_identifier"
      [⟨"Wild", by decide⟩, ⟨"Loud", by decide⟩] [implementing] :=
    .clause _ _ implementing (by simp) rfl ⟨rfl, rfl, rfl, by decide⟩
      (.cons (spells_word 10 "type_identifier" "Wild" ⟨0, 34⟩)
        (.cons (spells_word 12 "type_identifier" "Loud" ⟨0, 40⟩) .nil))
  have gathers : Gathers [extending, implementing] [heritage] :=
    .heritage _ heritage (by simp) rfl ⟨rfl, rfl, rfl, by decide⟩
  have first : FieldTree "public_field_definition" ⟨.pub, ⟨"p1", by decide⟩⟩ shown :=
    ⟨[], _, _, .nil, spells_word 16 "property_identifier" "p1" ⟨1, 2⟩,
      annotates_typing 17 1 4, rfl, rfl, rfl, by decide⟩
  have granted : Grants "private" access :=
    ⟨⟨rfl, rfl, rfl, by simp [access, phrase, sign]⟩, rfl⟩
  have second : FieldTree "public_field_definition" ⟨.priv, ⟨"p20", by decide⟩⟩ hidden :=
    ⟨[access], _, _, .cons granted .nil, spells_word 25 "property_identifier" "p20" ⟨2, 10⟩,
      annotates_typing 26 2 13, rfl, rfl, rfl, by decide⟩
  exact ⟨_, [heritage], [shown, hidden], lionBody, rfl, named,
    ⟨[extending], [implementing], extended, implemented, gathers⟩,
    .cons first (.cons second .nil), ⟨rfl, rfl, rfl, by decide⟩, rfl, rfl, rfl, by decide⟩

theorem wild_pictured : DeclarationTree wild 4 wildNode := by
  have named := spells_word 34 "type_identifier" "Wild" ⟨4, 10⟩
  have loud := spells_under 37 "type_identifier" "Loud" "type" ⟨4, 23⟩
  have extended : ClauseTree "extends_type_clause" "type_identifier" [⟨"Loud", by decide⟩]
      [widening] :=
    .clause _ _ widening (by simp) rfl ⟨rfl, rfl, rfl, by decide⟩ (.cons loud .nil)
  have only : FieldTree "property_signature" ⟨.pub, ⟨"p3", by decide⟩⟩ signature :=
    ⟨[], _, _, .nil, spells_word 41 "property_identifier" "p3" ⟨5, 2⟩,
      annotates_typing 42 5 4, rfl, rfl, rfl, by decide⟩
  exact ⟨_, [widening], [signature], wildBody, rfl, named, extended, .cons only .nil,
    ⟨rfl, rfl, rfl, by decide⟩, rfl, rfl, rfl, by decide⟩

theorem root_pictured : SourceTree [lion, wild] root :=
  ⟨rfl, rfl, .cons 0 lion [wild] lionNode [wildNode] lion_pictured
    (.cons 4 wild [] wildNode [] wild_pictured (.nil _))⟩

end Pride

theorem plain_source_analyzed_pride :
    source [Pride.lion, Pride.wild] =
        "class Lion extends Cat implements Wild, Loud \x7b\n  p1: number;\n" ++
          "  private p20: number;\n\x7d\ninterface Wild extends Loud \x7b\n  p3: number;\n\x7d\n" ∧
      Pride.reader.tree .typescript (source [Pride.lion, Pride.wild]) = .ok Pride.root ∧
      SourceTree [Pride.lion, Pride.wild] Pride.root ∧
      analyzeWith Pride.reader (source [Pride.lion, Pride.wild]) .typescript {} =
        .ok (analysis .typescript [Pride.lion, Pride.wild]) :=
  ⟨by decide, rfl, Pride.root_pictured,
    (plain_source_analyzed .typescript [Pride.lion, Pride.wild]).1 Pride.reader Pride.root rfl
      Pride.root_pictured⟩

end SourceAtlas.Plain
