import SourceAtlas.Proofs.PlainMembers

/-!
Plain declarations, parsed as statements.

The parts behind the name are followed once for both sorts of declaration, because a clause and a
body are read by the same rules whatever they belong to. What is left to each sort is its own rule:
a class gathers its clauses below one node and reads its superclass as an expression, an interface
has one clause of types.
-/

open SourceAtlas.TypeScript SourceAtlas.TypeScript.Parser

namespace SourceAtlas.Plain

variable (grammar : Grammar) (passed : List Char) (rest : List Lexeme)

/-! The nodes of whole declarations. -/

theorem clause_named {type itemType : String} {names : List TypeName} {clauses : List RawNode}
    (pictured : ClauseTree type itemType names clauses) :
    ∀ node ∈ clauses, node.named = true := by
  cases pictured with
  | absent => simp
  | clause _ items node filled label holds spelled => simp [holds.named]

theorem gathers_made (start : Cursor) (clauses : List RawNode)
    (named : ∀ node ∈ clauses, node.named = true) :
    Gathers clauses (heritageNodes start clauses) := by
  cases clauses with
  | nil => exact .absent
  | cons clause others =>
      exact .heritage _ _ (by simp) rfl (holds_made start "class_heritage" (clause :: others) named)

theorem gathered_named {clauses heritage : List RawNode} (gathers : Gathers clauses heritage) :
    ∀ node ∈ heritage, node.named = true := by
  cases gathers with
  | absent => simp
  | heritage _ node filled label holds => simp [holds.named]

theorem heritage_named (declaration : Declaration) (heritage : List RawNode)
    (inherited : HeritageTree declaration heritage) : ∀ node ∈ heritage, node.named = true := by
  cases declaration with
  | objectClass name base interfaces fields =>
      obtain ⟨_, _, _, _, gathers⟩ := inherited
      exact gathered_named gathers
  | interface name bases fields => exact clause_named inherited

theorem declaration_made (declaration : Declaration) (row : Nat) (start : Cursor)
    (name body : RawNode) (heritage members : List RawNode) (here : start.point = ⟨row, 0⟩)
    (named : Spells "type_identifier" declaration.name.text name)
    (inherited : HeritageTree declaration heritage)
    (fielded : List.Forall₂ (FieldTree declaration.fieldType) declaration.fields members)
    (bodied : Holds declaration.bodyType members body) :
    DeclarationTree declaration row
      (nodeWith start declaration.treeType
        (name.under "name" :: (heritage ++ [body.under "body"]))) := by
  refine ⟨name, heritage, members, body, here, named, inherited, fielded, bodied,
    holds_made _ _ _ ?_⟩
  simp only [List.mem_cons, List.mem_append, List.not_mem_nil, or_false]
  rintro part (rfl | between | rfl)
  · exact named.named
  · exact heritage_named declaration heritage inherited part between
  · exact bodied.named

theorem name_present (declaration : Declaration) (row : Nat) (node : RawNode)
    (pictured : DeclarationTree declaration row node) : (node.field? .name).isSome = true := by
  obtain ⟨name, heritage, _, body, _, _, _, _, _, holds⟩ := pictured
  have member : name.under "name" ∈ node.children.filter (·.named) := by
    rw [holds.parts]
    exact List.mem_cons_self
  have labeled : (RawNode.labeled? id "name" node.children).isSome = true := by
    rw [RawNode.labeled?, List.find?_isSome]
    exact ⟨_, (List.mem_filter.mp member).1, by simp [RawNode.under]⟩
  rw [RawNode.field?, RawNode.fieldAmong?, Option.isSome_or, labeled, Bool.true_or]

/-! The parts of a declaration behind its name. -/

theorem body_opens (fields : List Field) :
    bodyLexemes fields ++ rest = .mark .spaced .opening ::
      (fields.flatMap Field.lexemes ++ .mark .broken .closing :: rest) := by
  simp [bodyLexemes]

theorem ends_base (names : List TypeName) (fields : List Field) (spaced : Spaced rest) :
    EndsBase (clauseLexemes implementsWord names ++ (bodyLexemes fields ++ rest)) := by
  cases names with
  | nil => exact .inl ⟨.spaced, _, body_opens rest fields, by simpa using spaced⟩
  | cons first others => exact .inr ⟨_, rfl, by simpa using spaced⟩

theorem type_parameters_refuse_rows (keyword : Word) (names : List TypeName) (others : List Lexeme)
    (spaced : Spaced others) (some : others ≠ []) :
    typeParameters grammar (Place.facing passed (clauseLexemes keyword names ++ others)) =
      none := by
  have rows : Spaced (clauseLexemes keyword names ++ others) := by simpa using spaced
  cases same : clauseLexemes keyword names ++ others with
  | nil => simp [some] at same
  | cons lexeme more =>
      exact type_parameters_refuse grammar passed lexeme more (trails_of_spaced _ _ (same ▸ rows))

section Behind

variable (inner : Grammar) (ties : Ties grammar inner) (fields : List Field)
  (spaced : Spaced rest)

include ties spaced

theorem last_clause_takes (keyword : Word) (type : String) (names : List TypeName) :
    ∃ clause, Takes (optional (typeClause grammar keyword.text type)) passed
        (clauseLexemes keyword names) (bodyLexemes fields ++ rest) clause ∧
      ClauseTree type "type_identifier" names clause.toList := by
  rw [body_opens]
  exact type_clause_takes grammar passed _ .spaced .opening inner ties keyword type names
    (by decide) (by simpa using spaced)

theorem class_body_takes :
    ∃ members body, Takes (Grammar.body "class_body" (separatorNode <|> classMember grammar))
        passed (bodyLexemes fields) rest body ∧
      List.Forall₂ (FieldTree "public_field_definition") fields members ∧
      Holds "class_body" members body := by
  refine body_takes passed rest "class_body" _ (classMember grammar) ?_ ?_ fields spaced
  · intro before field more between
    exact (member_takes grammar before inner ties field more between).1
  · intro before more spaced
    exact (members_stop grammar before more .broken spaced).1

theorem interface_body_takes :
    ∃ members body, Takes (Grammar.body "interface_body" (separatorNode <|> typeMember grammar))
        passed (bodyLexemes fields) rest body ∧
      List.Forall₂ (FieldTree "property_signature") fields members ∧
      Holds "interface_body" members body := by
  refine body_takes passed rest "interface_body" _ (typeMember grammar) ?_ ?_ fields spaced
  · intro before field more between
    exact (member_takes grammar before inner ties field more between).2
  · intro before more spaced
    exact (members_stop grammar before more .broken spaced).2

end Behind

/-! Whole declarations. -/

theorem decorators_none (gap : Gap) (name : Word) (lexemes : List Lexeme)
    (spaced : Spaced lexemes) :
    many (decorator grammar) (Place.facing passed (.word gap name :: lexemes)) =
      some ([], Place.facing passed (.word gap name :: lexemes)) :=
  many_stops _ _ (decorator_refuses grammar passed _ _ ((trails_word _ _ _).mpr spaced))

/-- A statement that begins with a word is a declaration, unless it is exported or imported, or
stands for something declared elsewhere. -/
theorem statement_declares (gap : Gap) (keyword : Word) (lexemes : List Lexeme)
    (spaced : Spaced lexemes) (plain : keyword.text ∉ ["export", "import", "declare"])
    (reached : RawNode × Place)
    (declared : plainDeclaration grammar (Place.facing passed (.word gap keyword :: lexemes)) =
      some reached) :
    statement grammar (Place.facing passed (.word gap keyword :: lexemes)) = some reached := by
  have decorators := decorators_none grammar passed gap keyword lexemes spaced
  simp at plain
  have exported : exportNode grammar (Place.facing passed (.word gap keyword :: lexemes)) =
      none := by
    simp [exportNode, decorators, spaced, plain]
  have imported : importNode grammar (Place.facing passed (.word gap keyword :: lexemes)) =
      none := by
    simp [importNode, spaced, plain]
  have announced : ambient grammar (Place.facing passed (.word gap keyword :: lexemes)) = none := by
    simp [ambient, keywordBefore, spaced, plain]
  simp [statement, spaced, exported, imported, declaration, announced, declared]

theorem class_declaration_refuses (gap : Gap) (keyword : Word) (lexemes : List Lexeme)
    (spaced : Spaced lexemes) (other : keyword.text ∉ ["abstract", "class"]) :
    classDeclaration grammar (Place.facing passed (.word gap keyword :: lexemes)) = none := by
  have decorators := decorators_none grammar passed gap keyword lexemes spaced
  simp at other
  simp [classDeclaration, decoratedClass, decorators, classNode, spaced, other]

section Whole

variable (inner : Grammar) (ties : Ties grammar inner) (spaced : Spaced rest) (gap : Gap)
  (row : Nat) (here : (passed ++ gap.chars).foldl Point.past Point.start = ⟨row, 0⟩)

include ties spaced here

theorem class_takes (name : TypeName) (base : Option TypeName) (interfaces : List TypeName)
    (fields : List Field) :
    ∃ node, Takes (decoratedClass grammar "class_declaration") passed
        ((Declaration.objectClass name base interfaces fields).lexemes gap) rest node ∧
      DeclarationTree (.objectClass name base interfaces fields) row node := by
  let headed := passed ++ ((Lexeme.word gap classWord).spelled ++
    (Lexeme.word .spaced (typeWord name)).spelled)
  let clauses := clauseLexemes implementsWord interfaces ++ (bodyLexemes fields ++ rest)
  let rows := clauseLexemes extendsWord base.toList ++ clauses
  have free : name.text ∉ ["extends", "implements"] := name.not_among _ (by decide)
  have decorators := decorators_none grammar passed gap classWord
    (.word .spaced (typeWord name) :: rows) (by simpa [rows, clauses] using spaced)
  have typed := type_parameters_refuse_rows grammar headed extendsWord base.toList clauses
    (by simpa [clauses] using spaced) (by simp [clauses, bodyLexemes])
  obtain ⟨extending, based, bases⟩ := base_clause_takes grammar headed base clauses
    (ends_base rest interfaces fields spaced)
  obtain ⟨implementing, listed, implemented⟩ := last_clause_takes grammar
    (headed ++ spell (clauseLexemes extendsWord base.toList)) rest inner ties fields spaced
    implementsWord "implements_clause" interfaces
  obtain ⟨members, body, bodied, fielded, holds⟩ := class_body_takes grammar
    (headed ++ spell (clauseLexemes extendsWord base.toList) ++
      spell (clauseLexemes implementsWord interfaces)) rest inner ties fields spaced
  let start := ((Lexeme.word gap classWord).token passed
    (.word .spaced (typeWord name) :: rows)).start
  let nameToken := (Lexeme.word .spaced (typeWord name)).token
    (passed ++ (Lexeme.word gap classWord).spelled) rows
  let behind := (Place.facing headed rows).token.start
  have inherited : HeritageTree (.objectClass name base interfaces fields)
      (heritageNodes behind (extending.toList ++ implementing.toList)) := by
    refine ⟨_, _, bases, implemented, gathers_made behind _ ?_⟩
    exact List.forall_mem_append.mpr ⟨clause_named bases, clause_named implemented⟩
  refine ⟨_, ?_, declaration_made (.objectClass name base interfaces fields) row start
    (nameToken.node "type_identifier") body _ members here (spells_leaf nameToken _) inherited
    fielded holds⟩
  -- Parsers with an optional result are unfolded in the facts as they are in the rule itself.
  rw [Takes] at based listed bodied ⊢
  simp only [headed, rows, clauses, List.append_assoc, implements_text, optional_run,
    Option.some.injEq] at based listed bodied decorators typed
  simp only [List.mem_cons, List.not_mem_nil, or_false] at free
  simp [Declaration.lexemes, Declaration.keywordWord, Declaration.name, Declaration.bases,
    Declaration.interfaces, Declaration.fields, decoratedClass, classNode, decorators, spaced,
    namesType, free, based, listed, bodied, typed, -bind_pure_comp, Declaration.treeType,
    nameToken, start, behind, headed, rows, clauses, part]

theorem interface_takes (name : TypeName) (bases : List TypeName) (fields : List FieldName) :
    ∃ node, Takes (interfaceNode grammar) passed
        ((Declaration.interface name bases fields).lexemes gap) rest node ∧
      DeclarationTree (.interface name bases fields) row node := by
  let headed := passed ++ ((Lexeme.word gap interfaceWord).spelled ++
    (Lexeme.word .spaced (typeWord name)).spelled)
  let written := (Declaration.interface name bases fields).fields
  let rows := clauseLexemes extendsWord bases ++ (bodyLexemes written ++ rest)
  have free : name.text ∉ ["extends", "implements"] := name.not_among _ (by decide)
  have typed := type_parameters_refuse_rows grammar headed extendsWord bases
    (bodyLexemes written ++ rest) (by simpa using spaced) (by simp [bodyLexemes])
  obtain ⟨extending, listed, extended⟩ := last_clause_takes grammar headed rest inner ties written
    spaced extendsWord "extends_type_clause" bases
  obtain ⟨members, body, bodied, fielded, holds⟩ := interface_body_takes grammar
    (headed ++ spell (clauseLexemes extendsWord bases)) rest inner ties written spaced
  let start := ((Lexeme.word gap interfaceWord).token passed
    (.word .spaced (typeWord name) :: rows)).start
  let nameToken := (Lexeme.word .spaced (typeWord name)).token
    (passed ++ (Lexeme.word gap interfaceWord).spelled) rows
  refine ⟨_, ?_, declaration_made (.interface name bases fields) row start
    (nameToken.node "type_identifier") body extending.toList members here
    (spells_leaf nameToken _) extended fielded holds⟩
  rw [Takes] at listed bodied ⊢
  simp only [headed, List.append_assoc, extends_text, optional_run, Option.some.injEq]
    at listed bodied typed
  simp only [List.mem_cons, List.not_mem_nil, or_false] at free
  have alone : clauseLexemes implementsWord [] = [] := rfl
  simp [Declaration.lexemes, Declaration.keywordWord, Declaration.name, Declaration.bases,
    Declaration.interfaces, interfaceNode, spaced, namesType, free, listed, bodied, typed, alone,
    -bind_pure_comp, Declaration.treeType, nameToken, start, rows, written, part]

theorem statement_takes (declaration : Declaration) :
    ∃ node, Takes (statement grammar) passed (declaration.lexemes gap) rest node ∧
      DeclarationTree declaration row node := by
  have behind : Spaced (.word .spaced (typeWord declaration.name) ::
      (clauseLexemes extendsWord declaration.bases ++
        clauseLexemes implementsWord declaration.interfaces ++
          bodyLexemes declaration.fields) ++ rest) := by
    simpa using spaced
  cases declaration with
  | objectClass name base interfaces fields =>
      obtain ⟨node, taken, pictured⟩ := class_takes grammar passed rest inner ties spaced gap row
        here name base interfaces fields
      have named := name_present _ row node pictured
      have declared : Takes (plainDeclaration grammar) passed
          ((Declaration.objectClass name base interfaces fields).lexemes gap) rest node := by
        rw [Takes] at taken ⊢
        simp only [plainDeclaration, classDeclaration, or_else_run, bind_run, taken,
          Option.bind_some, ite_run, named, if_true, pure_run, Option.some_or]
      exact ⟨node, statement_declares grammar passed gap classWord _ behind (by decide) _ declared,
        pictured⟩
  | interface name bases fields =>
      obtain ⟨node, taken, pictured⟩ := interface_takes grammar passed rest inner ties spaced gap
        row here name bases fields
      have refused : classDeclaration grammar (Place.facing passed
          ((Declaration.interface name bases fields).lexemes gap ++ rest)) = none :=
        class_declaration_refuses grammar passed gap interfaceWord _ behind (by decide)
      have declared : Takes (plainDeclaration grammar) passed
          ((Declaration.interface name bases fields).lexemes gap) rest node := by
        rw [Takes] at taken ⊢
        simp only [plainDeclaration, or_else_run, refused, taken, Option.none_or, Option.some_or]
      exact ⟨node, statement_declares grammar passed gap interfaceWord _ behind (by decide) _
        declared, pictured⟩

end Whole

end SourceAtlas.Plain
