import SourceAtlas.Proofs.AnchoredExpressions
import SourceAtlas.TypeScript.Program

/-!
The rules of the grammar for declarations, imports, exports and statements, and with them whole
programs. The grammar is tied together by depth, so that its rules anchor what they give follows by
induction on the depth, and the tree of a source text is anchored in that text.
-/

open SourceAtlas.TypeScript.Parser

namespace SourceAtlas.TypeScript

variable {source : String}

instance : Bears ExportParts :=
  ⟨fun parts => nodes parts.declaration ++ nodes parts.value ++ nodes parts.source ++ parts.others⟩

@[simp] theorem anchored_export_parts (parts : ExportParts) :
    Anchored source parts ↔ Anchored source parts.declaration ∧ Anchored source parts.value ∧
      Anchored source parts.source ∧ Anchored source parts.others := by
  simp [Anchored, nodes, or_imp, forall_and]

/-! Rules without a phrase inside. -/

theorem end_statement_anchors : Anchors source endStatement := by
  refine bind_anchors (optional_anchors mark_anchors) fun _ _ => ?_
  exact pure_anchors (by simp)

theorem keyword_before_anchors {keyword : String} {next : Token → Bool} :
    Anchors source (keywordBefore keyword next) := by
  refine bind_anchors peek_second_anchors fun second _ => ?_
  exact ite_anchors word_anchors failure_anchors

theorem variable_keyword_anchors : Anchors source variableKeyword := by
  refine bind_anchors peek_second_anchors fun second _ => ?_
  exact ite_anchors take_if_anchors failure_anchors

theorem import_alias_anchors : Anchors source importAlias := by
  refine bind_anchors word_anchors fun start _ => ?_
  refine bind_anchors (optional_anchors (seq_left_anchors word_anchors ahead_anchors)) fun _ _ => ?_
  refine bind_anchors take_if_anchors fun _ _ => ?_
  refine bind_anchors mark_anchors fun _ _ => ?_
  refine bind_anchors take_if_anchors fun _ _ => ?_
  refine bind_anchors (many_anchors (seq_right_anchors mark_anchors take_if_anchors)) fun _ _ => ?_
  refine bind_anchors end_statement_anchors fun _ _ => ?_
  exact pure_anchors (by simp [positionedTypes])

theorem string_node_anchors : Anchors source stringNode :=
  taken_node_anchors take_if_anchors (by decide)

theorem exchanged_name_anchors : Anchors source exchangedName := by
  refine bind_anchors take_if_anchors fun token _ => ?_
  exact pure_anchors (by split <;> simp [positionedTypes])

theorem type_qualifier_anchors : Anchors source typeQualifier := by
  refine bind_anchors word_anchors fun token _ => ?_
  refine bind_anchors peek_anchors fun second _ => ?_
  refine bind_anchors peek_second_anchors fun third _ => ?_
  exact ite_anchors (pure_anchors (by simp)) failure_anchors

theorem specifier_anchors {type : String} (unplaced : type ∉ positionedTypes) :
    Anchors source (specifier type) := by
  refine bind_anchors here_anchors fun start _ => ?_
  refine bind_anchors (optional_anchors type_qualifier_anchors) fun _ _ => ?_
  refine bind_anchors exchanged_name_anchors fun name nameHeld => ?_
  refine bind_anchors
      (optional_anchors (seq_right_anchors word_anchors exchanged_name_anchors))
      fun other otherHeld => ?_
  exact pure_anchors (by simp [unplaced, nameHeld, otherHeld])

theorem clause_anchors {type specifierType : String} (unplaced : type ∉ positionedTypes)
    (inside : specifierType ∉ positionedTypes) :
    Anchors source (clause type specifierType) := by
  refine bind_anchors mark_anchors fun start _ => ?_
  refine bind_anchors
      (comma_list_anchors (specifier_anchors inside))
      fun specifiers specifiersHeld => ?_
  refine bind_anchors mark_anchors fun _ _ => ?_
  exact pure_anchors (by simp [unplaced, specifiersHeld])

theorem from_module_anchors : Anchors source fromModule :=
  seq_right_anchors word_anchors string_node_anchors

theorem namespace_import_anchors : Anchors source namespaceImport := by
  refine bind_anchors mark_anchors fun start _ => ?_
  refine bind_anchors word_anchors fun _ _ => ?_
  refine bind_anchors take_if_anchors fun name _ => ?_
  exact pure_anchors (by simp [positionedTypes])

theorem import_clause_anchors : Anchors source importClause := by
  have list : Anchors source
      (namespaceImport <|> clause "named_imports" "import_specifier") :=
    or_else_anchors namespace_import_anchors (clause_anchors (by decide) (by decide))
  refine or_else_anchors ?_ ?_
  · exact bind_anchors list fun names held => pure_anchors (by simp [held])
  · refine bind_anchors take_if_anchors fun name _ => ?_
    refine bind_anchors (optional_anchors (seq_right_anchors mark_anchors list)) fun rest held => ?_
    exact pure_anchors (by simp [positionedTypes, held])

theorem require_clause_anchors : Anchors source requireClause := by
  refine bind_anchors take_if_anchors fun name _ => ?_
  refine bind_anchors mark_anchors fun _ _ => ?_
  refine bind_anchors word_anchors fun _ _ => ?_
  refine bind_anchors mark_anchors fun _ _ => ?_
  refine bind_anchors string_node_anchors fun source sourceHeld => ?_
  refine bind_anchors mark_anchors fun _ _ => ?_
  exact pure_anchors (by simp [positionedTypes, sourceHeld])

theorem export_all_anchors : Anchors source exportAll := by
  refine bind_anchors (optional_anchors word_anchors) fun _ _ => ?_
  refine bind_anchors mark_anchors fun _ _ => ?_
  refine bind_anchors
      (optional_anchors (seq_right_anchors word_anchors exchanged_name_anchors))
      fun _ _ => ?_
  refine bind_anchors from_module_anchors fun read readHeld => ?_
  exact pure_anchors (by simp [readHeld])

theorem export_list_anchors : Anchors source exportList := by
  refine bind_anchors (optional_anchors word_anchors) fun _ _ => ?_
  refine bind_anchors (clause_anchors (by decide) (by decide)) fun names namesHeld => ?_
  refine bind_anchors (optional_anchors from_module_anchors) fun source sourceHeld => ?_
  exact pure_anchors (by simp [namesHeld, sourceHeld])

theorem empty_statement_anchors : Anchors source emptyStatement := by
  refine bind_anchors mark_anchors fun token _ => ?_
  exact pure_anchors (by simp)

theorem stray_token_anchors : Anchors source strayToken := by
  refine bind_anchors take_if_anchors fun token _ => ?_
  exact pure_anchors (by simp [positionedTypes])

section Phrases

variable {grammar : Grammar} (inner : ∀ phrase, Anchors source (grammar phrase))

include inner

/-! Declarations. -/

-- A function may start at `async`. Without a body it declares nothing.
theorem function_node_anchors : Anchors source (functionNode grammar) := by
  apply here_bind_anchors
  · intro start place ended
    simp [keywordBefore, word_at_end _ place ended]
  · intro start stands
    refine bind_anchors (optional_anchors keyword_before_anchors) fun _ _ => ?_
    refine bind_anchors word_anchors fun _ _ => ?_
    refine bind_anchors (optional_anchors mark_anchors) fun _ _ => ?_
    refine bind_anchors take_if_anchors fun name _ => ?_
    refine bind_anchors (signature_anchors inner) fun signature held => ?_
    refine bind_anchors (optional_anchors (block_anchors inner)) fun body inside => ?_
    refine bind_anchors end_statement_anchors fun _ _ => pure_anchors ?_
    cases body with
    | none => simp [positionedTypes, held]
    | some block => simpa [positionedTypes, stands, held] using inside

theorem declarator_anchors {mode : ExpressionMode} :
    Anchors source (declarator grammar mode) := by
  refine bind_anchors here_anchors fun start _ => ?_
  refine bind_anchors (binding_anchors inner) fun name nameHeld => ?_
  refine bind_anchors (optional_anchors mark_anchors) fun _ _ => ?_
  refine bind_anchors (optional_anchors (ascription_anchors inner)) fun type typeHeld => ?_
  refine bind_anchors
      (optional_anchors (seq_right_anchors mark_anchors (inner _)))
      fun value valueHeld => ?_
  exact pure_anchors (by simp [positionedTypes, nameHeld, typeHeld, valueHeld])

theorem variable_list_anchors {mode : ExpressionMode} :
    Anchors source (variableList grammar mode) := by
  refine bind_anchors variable_keyword_anchors fun keyword _ => ?_
  refine bind_anchors
      (sep_by_anchors (declarator_anchors inner) mark_anchors)
      fun declarators declaratorsHeld => ?_
  exact pure_anchors (by simp [positionedTypes, declaratorsHeld])

theorem type_alias_anchors : Anchors source (typeAlias grammar) := by
  refine bind_anchors keyword_before_anchors fun start _ => ?_
  refine bind_anchors take_if_anchors fun name _ => ?_
  refine bind_anchors (optional_anchors (type_parameters_anchors inner)) fun types typesHeld => ?_
  refine bind_anchors mark_anchors fun _ _ => ?_
  refine bind_anchors (inner _) fun type typeHeld => ?_
  refine bind_anchors end_statement_anchors fun _ _ => ?_
  exact pure_anchors (by simp [positionedTypes, typesHeld, typeHeld])

theorem module_node_anchors : Anchors source (moduleNode grammar) := by
  refine bind_anchors
      (or_else_anchors keyword_before_anchors keyword_before_anchors)
      fun start _ => ?_
  refine bind_anchors here_anchors fun first _ => ?_
  refine bind_anchors take_if_anchors fun _ _ => ?_
  refine bind_anchors (many_anchors (seq_right_anchors mark_anchors take_if_anchors)) fun _ _ => ?_
  refine bind_anchors (covering_node_anchors (by decide) (by simp)) fun name nameHeld => ?_
  refine bind_anchors (optional_anchors (block_anchors inner)) fun body bodyHeld => ?_
  refine bind_anchors end_statement_anchors fun _ _ => ?_
  exact pure_anchors (by simp [positionedTypes, nameHeld, bodyHeld])

theorem enum_declaration_anchors : Anchors source (enumDeclaration grammar) := by
  refine bind_anchors ahead_anchors fun isEnum _ => ?_
  exact ite_anchors (enum_node_anchors inner) failure_anchors

theorem class_declaration_anchors : Anchors source (classDeclaration grammar) := by
  refine bind_anchors (decorated_class_anchors inner) fun node nodeHeld => ?_
  exact ite_anchors (pure_anchors (by simp [nodeHeld])) failure_anchors

theorem plain_declaration_anchors : Anchors source (plainDeclaration grammar) := by
  refine or_else_anchors (class_declaration_anchors inner) ?_
  refine or_else_anchors (interface_node_anchors inner) ?_
  refine or_else_anchors (enum_declaration_anchors inner) ?_
  refine or_else_anchors (function_node_anchors inner) ?_
  refine or_else_anchors (type_alias_anchors inner) ?_
  refine or_else_anchors (module_node_anchors inner) ?_
  refine or_else_anchors ?_ import_alias_anchors
  exact seq_left_anchors (variable_list_anchors inner) end_statement_anchors

theorem ambient_anchors : Anchors source (ambient grammar) := by
  refine bind_anchors keyword_before_anchors fun start _ => ?_
  refine bind_anchors
      (or_else_anchors
        (seq_right_anchors word_anchors (block_anchors inner))
        (plain_declaration_anchors inner))
      fun inside insideHeld => ?_
  exact pure_anchors (by simp [positionedTypes, insideHeld])

theorem declaration_anchors : Anchors source (declaration grammar) :=
  or_else_anchors (ambient_anchors inner) (plain_declaration_anchors inner)

/-! Imports and exports. -/

theorem attributes_anchors : Anchors source (attributes grammar) := by
  refine bind_anchors take_if_anchors fun _ _ => ?_
  exact inner _

theorem import_node_anchors : Anchors source (importNode grammar) := by
  refine word_bind_anchors fun start stands => ?_
  have form : Anchors source
      ((do
          let names ← importClause
          let source ← fromModule
          return (names, some source)) <|>
        (do return (← requireClause, none)) <|>
        do return ([], some (← stringNode)) : Parser (List RawNode × Option RawNode)) := by
    refine or_else_anchors ?_ (or_else_anchors ?_ ?_)
    · refine bind_anchors import_clause_anchors fun names namesHeld => ?_
      refine bind_anchors from_module_anchors fun text textHeld => ?_
      exact pure_anchors (by simp [namesHeld, textHeld])
    · exact bind_anchors require_clause_anchors fun parts held => pure_anchors (by simp [held])
    · exact bind_anchors string_node_anchors fun text held => pure_anchors (by simp [held])
  refine bind_anchors (or_else_anchors (seq_right_anchors word_anchors form) form)
      fun parts partsHeld => ?_
  obtain ⟨namesHeld, sourceHeld⟩ := (anchored_pair parts).mp partsHeld
  refine bind_anchors (optional_anchors (attributes_anchors inner)) fun extra extraHeld => ?_
  refine bind_anchors end_statement_anchors fun _ _ => ?_
  exact pure_anchors (by simp [positionedTypes, stands, namesHeld, sourceHeld, extraHeld])

theorem export_default_anchors : Anchors source (exportDefault grammar) := by
  refine bind_anchors word_anchors fun _ _ => or_else_anchors ?_ ?_
  · refine bind_anchors (or_else_anchors (class_declaration_anchors inner) ?_)
        fun node held => pure_anchors (by simp [held])
    refine or_else_anchors (interface_node_anchors inner) ?_
    exact or_else_anchors (enum_declaration_anchors inner) (function_node_anchors inner)
  · exact bind_anchors (expression_anchors inner) fun value held => pure_anchors (by simp [held])

theorem export_whole_anchors : Anchors source (exportWhole grammar) := by
  refine or_else_anchors ?_ ?_
  · refine bind_anchors
        (seq_right_anchors mark_anchors (expression_anchors inner))
        fun value valueHeld => ?_
    exact pure_anchors (by simp [valueHeld])
  · refine bind_anchors word_anchors fun _ _ => ?_
    refine bind_anchors word_anchors fun _ _ => ?_
    exact bind_anchors take_if_anchors fun _ _ => pure_anchors (by simp)

theorem export_declared_anchors : Anchors source (exportDeclared grammar) := by
  refine bind_anchors (declaration_anchors inner) fun read readHeld => ?_
  exact pure_anchors (by simp [readHeld])

theorem export_node_anchors : Anchors source (exportNode grammar) := by
  refine bind_anchors here_anchors fun start _ => ?_
  refine bind_anchors (many_anchors (decorator_anchors inner)) fun decorators decoratorsHeld => ?_
  refine bind_anchors word_anchors fun _ _ => ?_
  refine bind_anchors (or_else_anchors (export_default_anchors inner) ?_) fun parts partsHeld => ?_
  · refine or_else_anchors export_all_anchors (or_else_anchors export_list_anchors ?_)
    exact or_else_anchors (export_whole_anchors inner) (export_declared_anchors inner)
  obtain ⟨declared, value, source, others⟩ := (anchored_export_parts parts).mp partsHeld
  refine bind_anchors (optional_anchors (attributes_anchors inner)) fun extra extraHeld => ?_
  refine bind_anchors end_statement_anchors fun _ _ => ?_
  exact pure_anchors
    (by simp [positionedTypes, decoratorsHeld, declared, value, source, others, extraHeld])

/-! Statements. -/

theorem head_condition_anchors : Anchors source (headCondition grammar) := by
  refine bind_anchors mark_anchors fun _ _ => ?_
  refine bind_anchors (sequence_anchors inner) fun inside insideHeld => ?_
  refine bind_anchors mark_anchors fun _ _ => ?_
  exact pure_anchors (by simp [insideHeld])

theorem if_statement_anchors : Anchors source (ifStatement grammar) := by
  refine bind_anchors word_anchors fun start _ => ?_
  refine bind_anchors (head_condition_anchors inner) fun test testHeld => ?_
  refine bind_anchors (inner _) fun yes yesHeld => ?_
  refine bind_anchors
      (optional_anchors (seq_right_anchors word_anchors (inner _)))
      fun no noHeld => ?_
  exact pure_anchors (by simp [testHeld, yesHeld, noHeld])

theorem while_statement_anchors : Anchors source (whileStatement grammar) := by
  refine bind_anchors take_if_anchors fun start _ => ?_
  refine bind_anchors (head_condition_anchors inner) fun test testHeld => ?_
  refine bind_anchors (inner _) fun inside insideHeld => ?_
  exact pure_anchors (by simp [testHeld, insideHeld])

theorem do_statement_anchors : Anchors source (doStatement grammar) := by
  refine bind_anchors word_anchors fun start _ => ?_
  refine bind_anchors (inner _) fun inside insideHeld => ?_
  refine bind_anchors word_anchors fun _ _ => ?_
  refine bind_anchors (head_condition_anchors inner) fun test testHeld => ?_
  refine bind_anchors end_statement_anchors fun _ _ => ?_
  exact pure_anchors (by simp [insideHeld, testHeld])

theorem each_head_anchors : Anchors source (eachHead grammar) := by
  refine bind_anchors (or_else_anchors (seq_left_anchors ?_ take_if_anchors) ?_)
      fun left leftHeld => ?_
  · refine bind_anchors take_if_anchors fun _ _ => ?_
    refine bind_anchors (binding_anchors inner) fun name nameHeld => ?_
    refine bind_anchors (optional_anchors (ascription_anchors inner)) fun type typeHeld => ?_
    refine bind_anchors
        (optional_anchors (seq_right_anchors mark_anchors (inner _)))
        fun value valueHeld => ?_
    exact pure_anchors (by simp [nameHeld, typeHeld, valueHeld])
  · refine seq_left_anchors ?_ take_if_anchors
    exact bind_anchors (sequence_anchors inner) fun target held => pure_anchors (by simp [held])
  · refine bind_anchors (sequence_anchors inner) fun right rightHeld => ?_
    exact pure_anchors (by simp [leftHeld, rightHeld])

theorem count_head_anchors : Anchors source (countHead grammar) := by
  refine bind_anchors
      (optional_anchors (or_else_anchors (variable_list_anchors inner) (sequence_anchors inner)))
      fun start startHeld => ?_
  refine bind_anchors mark_anchors fun _ _ => ?_
  refine bind_anchors (optional_anchors (sequence_anchors inner)) fun test testHeld => ?_
  refine bind_anchors mark_anchors fun _ _ => ?_
  refine bind_anchors (optional_anchors (sequence_anchors inner)) fun step stepHeld => ?_
  exact pure_anchors (by simp [startHeld, testHeld, stepHeld])

theorem for_statement_anchors : Anchors source (forStatement grammar) := by
  refine bind_anchors word_anchors fun start _ => ?_
  refine bind_anchors (optional_anchors word_anchors) fun _ _ => ?_
  refine bind_anchors mark_anchors fun _ _ => ?_
  refine bind_anchors
      (or_else_anchors (each_head_anchors inner) (count_head_anchors inner))
      fun head headHeld => ?_
  refine bind_anchors mark_anchors fun _ _ => ?_
  refine bind_anchors (inner _) fun inside insideHeld => ?_
  exact pure_anchors (by simp [headHeld, insideHeld])

theorem case_label_anchors : Anchors source (caseLabel grammar) := by
  refine bind_anchors here_anchors fun start _ => ?_
  refine bind_anchors (or_else_anchors ?_ ?_) fun parts partsHeld => ?_
  · refine bind_anchors word_anchors fun _ _ => ?_
    exact bind_anchors (sequence_anchors inner) fun value held => pure_anchors (by simp [held])
  · exact bind_anchors word_anchors fun _ _ => pure_anchors (by simp)
  · refine bind_anchors mark_anchors fun _ _ => ?_
    exact pure_anchors (by simp [partsHeld])

theorem switch_statement_anchors : Anchors source (switchStatement grammar) := by
  refine bind_anchors word_anchors fun start _ => ?_
  refine bind_anchors (head_condition_anchors inner) fun value valueHeld => ?_
  refine bind_anchors
      (body_anchors (by decide) (or_else_anchors (case_label_anchors inner) (inner _)))
      fun cases casesHeld => ?_
  exact pure_anchors (by simp [valueHeld, casesHeld])

theorem try_statement_anchors : Anchors source (tryStatement grammar) := by
  refine bind_anchors word_anchors fun start _ => ?_
  refine bind_anchors (block_anchors inner) fun inside insideHeld => ?_
  refine bind_anchors (optional_anchors ?_) fun handled handledHeld => ?_
  · refine bind_anchors word_anchors fun _ _ => ?_
    refine bind_anchors
        (optional_anchors
          (seq_left_anchors
            (seq_right_anchors mark_anchors (parameter_anchors inner))
            mark_anchors))
        fun parameter parameterHeld => ?_
    refine bind_anchors (block_anchors inner) fun handler handlerHeld => ?_
    exact pure_anchors (by simp [parameterHeld, handlerHeld])
  · refine bind_anchors
        (optional_anchors (seq_right_anchors word_anchors (block_anchors inner)))
        fun always alwaysHeld => ?_
    exact pure_anchors (by simp [insideHeld, handledHeld, alwaysHeld])

theorem jump_statement_anchors : Anchors source (jumpStatement grammar) := by
  refine bind_anchors take_if_anchors fun start _ => ?_
  refine bind_anchors peek_anchors fun token _ => ?_
  exact ite_anchors
    (bind_anchors (pure_anchors (by simp)) fun value valueHeld =>
      bind_anchors end_statement_anchors fun _ _ => pure_anchors (by simp [valueHeld]))
    (bind_anchors (optional_anchors (sequence_anchors inner)) fun value valueHeld =>
      bind_anchors end_statement_anchors fun _ _ => pure_anchors (by simp [valueHeld]))

theorem labeled_anchors : Anchors source (labeled grammar) := by
  refine bind_anchors take_if_anchors fun _ _ => ?_
  refine bind_anchors mark_anchors fun _ _ => ?_
  exact inner _

theorem expression_statement_anchors : Anchors source (expressionStatement grammar) := by
  refine bind_anchors (sequence_anchors inner) fun inside insideHeld => ?_
  refine bind_anchors end_statement_anchors fun _ _ => ?_
  exact pure_anchors (by simp [insideHeld])

theorem control_statement_anchors : Anchors source (controlStatement grammar) := by
  refine or_else_anchors (if_statement_anchors inner) ?_
  refine or_else_anchors (for_statement_anchors inner) ?_
  refine or_else_anchors (while_statement_anchors inner) ?_
  refine or_else_anchors (do_statement_anchors inner) ?_
  refine or_else_anchors (switch_statement_anchors inner) ?_
  exact or_else_anchors (try_statement_anchors inner) (jump_statement_anchors inner)

theorem statement_anchors : Anchors source (statement grammar) := by
  refine bind_anchors peek_anchors fun token _ => ?_
  split
  · split
    · exact block_anchors inner
    · exact empty_statement_anchors
    · refine or_else_anchors (class_declaration_anchors inner) ?_
      exact or_else_anchors (export_node_anchors inner) (expression_statement_anchors inner)
    · exact expression_statement_anchors inner
  · refine or_else_anchors (export_node_anchors inner) ?_
    refine or_else_anchors (import_node_anchors inner) ?_
    refine or_else_anchors (declaration_anchors inner) ?_
    refine or_else_anchors (control_statement_anchors inner) ?_
    exact or_else_anchors (labeled_anchors inner) (expression_statement_anchors inner)
  · exact expression_statement_anchors inner

end Phrases

/-! Programs. -/

theorem grammar_anchors (language : Language) (depth : Nat) (phrase : Phrase) :
    Anchors source (grammar language depth phrase) := by
  induction depth generalizing phrase with
  | zero => exact failure_anchors
  | succ depth ih =>
      cases phrase with
      | statement => exact statement_anchors ih
      | expression mode => exact whole_expression_anchors ih
      | literal => exact literal_anchors ih
      | type => exact type_anchors ih
      | plainType => exact plain_type_anchors ih
      | element => exact element_anchors ih

theorem program_anchors (language : Language) (depth : Nat) :
    Anchors source (program language depth) := by
  refine bind_anchors here_anchors fun start _ => ?_
  refine bind_anchors (optional_anchors take_raw_anchors) fun _ _ => ?_
  refine bind_anchors
      (many_anchors (or_else_anchors (grammar_anchors language depth _) stray_token_anchors))
      fun statements held => ?_
  exact pure_anchors (by simp [positionedTypes, held])

/-- In the tree of a source text every declaration and every import starts at a character of the
text that is not blank. -/
theorem raw_tree_anchored (language : Language) (source : String) :
    Anchored source (rawTree language source) := by
  have within := place_within _ (start_within source)
  rw [rawTree]
  cases read : program language (4 * (Cursor.ofText source).left + 4)
      (Place.ofCursor (Cursor.ofText source)) with
  | none => simp [positionedTypes]
  | some reached => exact (program_anchors language _ _ reached.1 reached.2 within read).2

end SourceAtlas.TypeScript
