import SourceAtlas.Proofs.Anchors
import SourceAtlas.TypeScript.ClassPhrase
import SourceAtlas.TypeScript.TypePhrase

/-!
The rules of the grammar for members, types and classes, each of which anchors what it gives when
the phrases inside it do. A rule is followed along its own text, by one law for each of its steps.
Most rules only hold nodes together. The exceptions are classes, interfaces and enumerations: there
the position counts, and it is where a token stands that the rule takes.
-/

open SourceAtlas.TypeScript.Parser

namespace SourceAtlas.TypeScript

variable {source : String}

instance : Bears Signature :=
  ⟨fun signature => nodes signature.types ++ [signature.parameters] ++ nodes signature.result⟩

@[simp] theorem anchored_signature (types result : Option RawNode) (parameters : RawNode) :
    Anchored source (Signature.mk types parameters result) ↔ Anchored source types ∧
      Anchored source parameters ∧ Anchored source result := by
  simp [Anchored, nodes, or_imp, forall_and]

@[simp] theorem anchored_signature_nodes (signature : Signature) :
    Anchored source signature.nodes ↔ Anchored source signature := by
  cases signature
  simp [Signature.nodes]

@[simp] theorem anchored_modifier (token : Token) :
    Anchored source (modifierNode token) := by
  unfold modifierNode
  split
  · rw [anchored_node]
    refine ⟨fun placed => ?_, by simp⟩
    exact absurd ((positioned_type "accessibility_modifier" token.text).mp placed) (by decide)
  · simp

@[simp] theorem anchored_heritage (start : Cursor) (clauses : List RawNode) :
    Anchored source (heritageNodes start clauses) ↔ Anchored source clauses := by
  cases clauses <;> simp [heritageNodes, positionedTypes]

/-! Rules without a phrase inside, and rules for any item. -/

theorem close_body_anchors : Anchors source Grammar.closeBody := by
  refine bind_anchors peek_anchors fun token _ => ?_
  exact ite_anchors
    (pure_anchors (by simp))
    (bind_anchors mark_anchors fun _ _ => pure_anchors (by simp))

theorem pass_over_anchors : Anchors source Grammar.passOver := by
  refine bind_anchors take_if_anchors fun token _ => ?_
  exact pure_anchors (by simp [positionedTypes])

theorem body_anchors {type : String} {item : Parser RawNode} (unplaced : type ∉ positionedTypes)
    (each : Anchors source item) : Anchors source (Grammar.body type item) := by
  refine bind_anchors here_anchors fun start _ => ?_
  refine bind_anchors mark_anchors fun _ _ => ?_
  refine bind_anchors
      (many_anchors (or_else_anchors each pass_over_anchors))
      fun items itemsHeld => ?_
  refine bind_anchors close_body_anchors fun _ _ => ?_
  exact pure_anchors (by simp [unplaced, itemsHeld])

theorem variance_anchors : Anchors source variance := by
  refine bind_anchors peek_second_anchors fun second _ => ?_
  exact ite_anchors take_if_anchors failure_anchors

theorem parameter_modifier_anchors : Anchors source parameterModifier := by
  refine bind_anchors peek_second_anchors fun second _ => ?_
  refine bind_anchors peek_anchors fun token _ => ?_
  exact ite_anchors
    (bind_anchors take_anchors fun token _ => pure_anchors (by simp))
    failure_anchors

theorem member_modifier_anchors : Anchors source memberModifier := by
  refine bind_anchors peek_anchors fun token _ => ?_
  refine bind_anchors peek_second_anchors fun second _ => ?_
  exact ite_anchors
    (bind_anchors take_anchors fun token _ => pure_anchors (by simp))
    failure_anchors

theorem opens_signature_anchors : Anchors source opensSignature := by
  refine bind_anchors peek_anchors fun token _ => ?_
  exact pure_anchors (by simp)

theorem mapping_sign_anchors : Anchors source mappingSign :=
  optional_anchors (or_else_anchors mark_anchors mark_anchors)

theorem separator_anchors : Anchors source separator :=
  or_else_anchors mark_anchors mark_anchors

theorem separator_node_anchors : Anchors source separatorNode :=
  bind_anchors separator_anchors fun _ _ => pure_anchors (by simp)

theorem template_anchors {inside : Parser RawNode} (each : Anchors source inside) :
    Anchors source (template inside) := by
  refine bind_anchors take_if_anchors fun opening _ => ?_
  refine bind_anchors
      (many_anchors
        (bind_anchors take_raw_anchors fun _ _ =>
          bind_anchors each fun node nodeHeld =>
            bind_anchors mark_anchors fun _ _ => pure_anchors (by simp [nodeHeld])))
      fun holes holesHeld => ?_
  refine bind_anchors take_raw_anchors fun _ _ => ?_
  exact pure_anchors (by simp [holesHeld])

theorem object_modifier_anchors : Anchors source objectModifier := by
  refine bind_anchors peek_anchors fun token _ => ?_
  refine bind_anchors peek_second_anchors fun second _ => ?_
  exact ite_anchors
    (bind_anchors take_anchors fun token _ => pure_anchors (by simp))
    failure_anchors

theorem place_name_anchors : Anchors source placeName :=
  seq_left_anchors (seq_left_anchors take_if_anchors (optional_anchors mark_anchors)) mark_anchors

theorem literal_type_anchors : Anchors source literalType := by
  refine bind_anchors here_anchors fun start _ => ?_
  refine bind_anchors (optional_anchors mark_anchors) fun _ _ => ?_
  refine bind_anchors take_if_anchors fun _ _ => ?_
  exact pure_anchors (by simp)

theorem type_operator_anchors : Anchors source typeOperator := by
  refine bind_anchors peek_second_anchors fun second _ => ?_
  exact ite_anchors take_if_anchors failure_anchors

theorem ends_base_anchors : Anchors source endsBase := by
  refine bind_anchors peek_anchors fun token _ => ?_
  exact ite_anchors (pure_anchors (by simp)) failure_anchors

section Phrases

variable {grammar : Grammar} (inner : ∀ phrase, Anchors source (grammar phrase))

include inner

/-! Lists of expressions, and blocks. -/

theorem expression_anchors : Anchors source grammar.expression :=
  inner _

theorem sequence_anchors {mode : ExpressionMode} :
    Anchors source (grammar.sequence mode) := by
  refine bind_anchors here_anchors fun start _ => ?_
  refine bind_anchors (sep_by_anchors (inner _) mark_anchors) fun parts partsHeld => ?_
  split
  · exact pure_anchors (by simpa using partsHeld)
  · exact pure_anchors (by simpa using partsHeld)

theorem spread_anchors : Anchors source grammar.spread := by
  refine bind_anchors (optional_anchors mark_anchors) fun _ _ => ?_
  exact expression_anchors inner

theorem arguments_anchors : Anchors source grammar.arguments := by
  refine bind_anchors mark_anchors fun _ _ => ?_
  refine bind_anchors (comma_list_anchors (spread_anchors inner)) fun arguments argumentsHeld => ?_
  refine bind_anchors mark_anchors fun _ _ => ?_
  exact pure_anchors (by simp [argumentsHeld])

theorem initial_anchors : Anchors source grammar.initial := by
  refine bind_anchors mark_anchors fun _ _ => ?_
  exact expression_anchors inner

theorem block_anchors : Anchors source grammar.block :=
  body_anchors (by decide) (inner _)

/-! Signatures. -/

theorem type_arguments_anchors : Anchors source (typeArguments grammar) := by
  refine bind_anchors here_anchors fun start _ => ?_
  refine bind_anchors mark_anchors fun _ _ => ?_
  refine bind_anchors (sep_by_anchors (inner _) mark_anchors) fun types typesHeld => ?_
  refine bind_anchors (optional_anchors mark_anchors) fun _ _ => ?_
  refine bind_anchors mark_anchors fun _ _ => ?_
  exact pure_anchors (by simp [typesHeld])

theorem type_parameter_anchors : Anchors source (typeParameter grammar) := by
  refine bind_anchors here_anchors fun start _ => ?_
  refine bind_anchors (many_anchors variance_anchors) fun _ _ => ?_
  refine bind_anchors take_if_anchors fun _ _ => ?_
  refine bind_anchors
      (optional_anchors (seq_right_anchors word_anchors (inner _)))
      fun bound boundHeld => ?_
  refine bind_anchors
      (optional_anchors (seq_right_anchors mark_anchors (inner _)))
      fun fallback fallbackHeld => ?_
  exact pure_anchors (by simp [boundHeld, fallbackHeld])

theorem type_parameters_anchors : Anchors source (typeParameters grammar) := by
  refine bind_anchors here_anchors fun start _ => ?_
  refine bind_anchors mark_anchors fun _ _ => ?_
  refine bind_anchors
      (sep_by_anchors (type_parameter_anchors inner) mark_anchors)
      fun parameters parametersHeld => ?_
  refine bind_anchors (optional_anchors mark_anchors) fun _ _ => ?_
  refine bind_anchors mark_anchors fun _ _ => ?_
  exact pure_anchors (by simp [parametersHeld])

theorem ascription_anchors : Anchors source (ascription grammar) := by
  refine bind_anchors here_anchors fun start _ => ?_
  refine bind_anchors mark_anchors fun _ _ => ?_
  refine bind_anchors (inner _) fun type typeHeld => ?_
  exact covering_node_anchors (by decide) (by simp [typeHeld])

theorem decorator_anchors : Anchors source (decorator grammar) := by
  refine bind_anchors here_anchors fun start _ => ?_
  refine bind_anchors mark_anchors fun _ _ => ?_
  refine bind_anchors (or_else_anchors ?_ ?_) fun inside held => pure_anchors (by simp [held])
  · refine bind_anchors mark_anchors fun _ _ => ?_
    refine bind_anchors (expression_anchors inner) fun inside insideHeld => ?_
    refine bind_anchors mark_anchors fun _ _ => ?_
    exact pure_anchors (by simp [insideHeld])
  · refine bind_anchors take_if_anchors fun _ _ => ?_
    refine bind_anchors
        (many_anchors (seq_right_anchors mark_anchors take_if_anchors))
        fun _ _ => ?_
    refine bind_anchors (optional_anchors (type_arguments_anchors inner)) fun types typesHeld => ?_
    refine bind_anchors (optional_anchors (arguments_anchors inner)) fun list listHeld => ?_
    exact pure_anchors (by simp [typesHeld, listHeld])

theorem binding_anchors : Anchors source (binding grammar) := by
  refine bind_anchors peek_anchors fun token _ => ?_
  refine ite_anchors (taken_node_anchors take_anchors (by decide)) ?_
  refine bind_anchors (inner _) fun inside insideHeld => ?_
  exact covering_node_anchors (by split <;> decide) (by simp [insideHeld])

theorem rest_binding_anchors : Anchors source (restBinding grammar) := by
  refine bind_anchors here_anchors fun start _ => ?_
  refine bind_anchors (accepts_anchors mark_anchors) fun spreads _ => ?_
  refine ite_anchors ?_ (binding_anchors inner)
  refine bind_anchors (binding_anchors inner) fun inside insideHeld => ?_
  exact covering_node_anchors (by decide) (by simp [insideHeld])

theorem parameter_anchors : Anchors source (parameter grammar) := by
  refine bind_anchors here_anchors fun start _ => ?_
  refine bind_anchors (many_anchors (decorator_anchors inner)) fun decorators decoratorsHeld => ?_
  refine bind_anchors (many_anchors parameter_modifier_anchors) fun modifiers modifiersHeld => ?_
  refine bind_anchors (rest_binding_anchors inner) fun name nameHeld => ?_
  refine bind_anchors (accepts_anchors mark_anchors) fun isOptional _ => ?_
  refine bind_anchors (optional_anchors (ascription_anchors inner)) fun type typeHeld => ?_
  refine bind_anchors (optional_anchors (initial_anchors inner)) fun value valueHeld => ?_
  refine pure_anchors ?_
  cases isOptional <;>
    simp [positionedTypes, decoratorsHeld, modifiersHeld, nameHeld, typeHeld, valueHeld]

theorem parameters_anchors : Anchors source (parameters grammar) := by
  refine bind_anchors here_anchors fun start _ => ?_
  refine bind_anchors mark_anchors fun _ _ => ?_
  refine bind_anchors (comma_list_anchors (parameter_anchors inner)) fun list listHeld => ?_
  refine bind_anchors mark_anchors fun _ _ => ?_
  exact pure_anchors (by simp [positionedTypes, listHeld])

theorem signature_anchors : Anchors source (signature grammar) := by
  refine bind_anchors (optional_anchors (type_parameters_anchors inner)) fun types typesHeld => ?_
  refine bind_anchors (parameters_anchors inner) fun list listHeld => ?_
  refine bind_anchors (optional_anchors (ascription_anchors inner)) fun result resultHeld => ?_
  exact pure_anchors (by simp [typesHeld, listHeld, resultHeld])

/-! Members. -/

theorem member_name_anchors : Anchors source (memberName grammar) := by
  refine bind_anchors peek_anchors fun token _ => ?_
  split
  case h_5 =>
    refine bind_anchors mark_anchors fun _ _ => ?_
    refine bind_anchors (sequence_anchors inner) fun inside insideHeld => ?_
    refine bind_anchors mark_anchors fun _ _ => ?_
    exact covering_node_anchors (by decide) (by simp [insideHeld])
  all_goals exact taken_node_anchors take_anchors (by decide)

theorem method_node_anchors {start : Cursor} {modifiers : List RawNode} {name : RawNode}
    (marked : Anchored source modifiers) (named : Anchored source name) :
    Anchors source (methodNode grammar start modifiers name) := by
  refine bind_anchors (signature_anchors inner) fun signature signatureHeld => ?_
  refine bind_anchors (optional_anchors (block_anchors inner)) fun body bodyHeld => ?_
  refine pure_anchors ?_
  cases body <;> simp_all [positionedTypes]

theorem field_node_anchors {field : String} {start : Cursor} {modifiers : List RawNode}
    {name : RawNode} (unplaced : field ∉ positionedTypes) (marked : Anchored source modifiers)
    (named : Anchored source name) :
    Anchors source (fieldNode grammar field start modifiers name) := by
  refine bind_anchors (optional_anchors (ascription_anchors inner)) fun type typeHeld => ?_
  refine bind_anchors (optional_anchors (initial_anchors inner)) fun value valueHeld => ?_
  exact pure_anchors (by simp [unplaced, marked, named, typeHeld, valueHeld])

theorem named_member_anchors {field : String} (unplaced : field ∉ positionedTypes) :
    Anchors source (namedMember grammar field) := by
  refine bind_anchors here_anchors fun start _ => ?_
  refine bind_anchors (many_anchors member_modifier_anchors) fun modifiers modifiersHeld => ?_
  refine bind_anchors (optional_anchors mark_anchors) fun _ _ => ?_
  refine bind_anchors (member_name_anchors inner) fun name nameHeld => ?_
  refine bind_anchors (optional_anchors (or_else_anchors mark_anchors mark_anchors)) fun _ _ => ?_
  refine bind_anchors opens_signature_anchors fun token _ => ?_
  exact ite_anchors
    (method_node_anchors inner modifiersHeld nameHeld)
    (field_node_anchors inner unplaced modifiersHeld nameHeld)

theorem index_keys_anchors : Anchors source (indexKeys grammar) := by
  refine bind_anchors take_if_anchors fun _ _ => ?_
  refine bind_anchors (accepts_anchors mark_anchors) fun typed _ => ite_anchors ?_ ?_
  · exact bind_anchors (inner _) fun type typeHeld => pure_anchors (by simp [typeHeld])
  · refine bind_anchors word_anchors fun _ _ => ?_
    refine bind_anchors (inner _) fun keys keysHeld => ?_
    refine bind_anchors
        (optional_anchors (seq_right_anchors word_anchors (inner _)))
        fun renamed renamedHeld => ?_
    exact pure_anchors (by simp [keysHeld, renamedHeld])

theorem index_member_anchors : Anchors source (indexMember grammar) := by
  refine bind_anchors here_anchors fun start _ => ?_
  refine bind_anchors (many_anchors member_modifier_anchors) fun _ _ => ?_
  refine bind_anchors mapping_sign_anchors fun _ _ => ?_
  refine bind_anchors (optional_anchors word_anchors) fun _ _ => ?_
  refine bind_anchors mark_anchors fun _ _ => ?_
  refine bind_anchors (index_keys_anchors inner) fun keys keysHeld => ?_
  refine bind_anchors mark_anchors fun _ _ => ?_
  refine bind_anchors mapping_sign_anchors fun _ _ => ?_
  refine bind_anchors (optional_anchors mark_anchors) fun _ _ => ?_
  refine bind_anchors (optional_anchors (ascription_anchors inner)) fun type typeHeld => ?_
  exact pure_anchors (by simp [keysHeld, typeHeld])

theorem bare_signature_anchors : Anchors source (bareSignature grammar) := by
  refine bind_anchors here_anchors fun start _ => ?_
  refine bind_anchors (optional_anchors word_anchors) fun _ _ => ?_
  refine bind_anchors (optional_anchors word_anchors) fun _ _ => ?_
  refine bind_anchors (signature_anchors inner) fun signature signatureHeld => ?_
  exact pure_anchors (by simp [signatureHeld])

theorem type_member_anchors : Anchors source (typeMember grammar) := by
  refine bind_anchors (many_anchors separator_anchors) fun _ _ => ?_
  refine bind_anchors
      (or_else_anchors
        (bare_signature_anchors inner)
        (or_else_anchors (index_member_anchors inner) (named_member_anchors inner (by decide))))
      fun member memberHeld => ?_
  refine bind_anchors (many_anchors separator_anchors) fun _ _ => ?_
  exact pure_anchors (by simp [memberHeld])

/-! Literals. -/

theorem object_entry_anchors : Anchors source (objectEntry grammar) := by
  refine bind_anchors here_anchors fun start _ => ?_
  refine bind_anchors (accepts_anchors mark_anchors) fun spreads _ => ?_
  refine ite_anchors (expression_anchors inner) ?_
  refine bind_anchors (many_anchors object_modifier_anchors) fun modifiers modifiersHeld => ?_
  refine bind_anchors (optional_anchors mark_anchors) fun _ _ => ?_
  refine bind_anchors (member_name_anchors inner) fun name nameHeld => ?_
  refine bind_anchors peek_anchors fun token _ => ?_
  refine ite_anchors (method_node_anchors inner modifiersHeld nameHeld) ?_
  refine bind_anchors
      (optional_anchors
        (seq_right_anchors (or_else_anchors mark_anchors mark_anchors) (expression_anchors inner)))
      fun value valueHeld => ?_
  exact pure_anchors (by simp [nameHeld, valueHeld])

theorem object_anchors : Anchors source (object grammar) := by
  refine bind_anchors mark_anchors fun start _ => ?_
  refine bind_anchors
      (comma_list_anchors (object_entry_anchors inner))
      fun entries entriesHeld => ?_
  refine bind_anchors mark_anchors fun _ _ => ?_
  exact pure_anchors (by simp [entriesHeld])

theorem list_anchors : Anchors source (list grammar) := by
  refine bind_anchors mark_anchors fun start _ => ?_
  refine bind_anchors
      (many_anchors
        (or_else_anchors
          (spread_anchors inner)
          (bind_anchors mark_anchors fun token _ => pure_anchors (by simp))))
      fun items itemsHeld => ?_
  refine bind_anchors mark_anchors fun _ _ => ?_
  exact pure_anchors (by simp [itemsHeld])

theorem literal_anchors : Anchors source (literal grammar) :=
  or_else_anchors (object_anchors inner) (list_anchors inner)

/-! Types. -/

theorem qualified_anchors : Anchors source (qualified grammar) := by
  refine bind_anchors
      (many_anchors (seq_right_anchors mark_anchors take_if_anchors))
      fun path pathHeld => ?_
  refine bind_anchors
      (optional_anchors (type_arguments_anchors inner))
      fun arguments argumentsHeld => ?_
  exact pure_anchors (by simp [pathHeld, argumentsHeld])

theorem assertion_anchors : Anchors source (assertion grammar) := by
  refine bind_anchors word_anchors fun start _ => ?_
  refine bind_anchors take_if_anchors fun _ _ => ?_
  refine bind_anchors
      (optional_anchors (seq_right_anchors word_anchors (inner _)))
      fun type typeHeld => ?_
  exact pure_anchors (by simp [typeHeld])

theorem predicate_anchors : Anchors source (predicate grammar) := by
  refine bind_anchors take_if_anchors fun start _ => ?_
  refine bind_anchors take_if_anchors fun _ _ => ?_
  refine bind_anchors (inner _) fun type typeHeld => ?_
  exact pure_anchors (by simp [typeHeld])

theorem named_type_anchors : Anchors source (namedType grammar) := by
  refine bind_anchors take_if_anchors fun first _ => ?_
  refine bind_anchors (qualified_anchors inner) fun parts partsHeld => ?_
  obtain ⟨_, typesHeld⟩ := (anchored_pair parts).mp partsHeld
  refine ite_anchors (pure_anchors ?_) (pure_anchors (by simp [positionedTypes, typesHeld]))
  split <;> simp [positionedTypes]

theorem imported_type_anchors : Anchors source (importedType grammar) := by
  refine bind_anchors word_anchors fun start _ => ?_
  refine bind_anchors
      (seq_left_anchors
        (seq_right_anchors mark_anchors (comma_list_anchors (inner _)))
        mark_anchors)
      fun arguments argumentsHeld => ?_
  refine bind_anchors (qualified_anchors inner) fun parts partsHeld => ?_
  obtain ⟨_, typesHeld⟩ := (anchored_pair parts).mp partsHeld
  exact pure_anchors (by simp [argumentsHeld, typesHeld])

theorem queried_type_anchors : Anchors source (queriedType grammar) := by
  refine bind_anchors word_anchors fun start _ => ?_
  refine bind_anchors (or_else_anchors (imported_type_anchors inner) ?_)
      fun inside held => pure_anchors (by simp [held])
  refine bind_anchors take_if_anchors fun _ _ => ?_
  refine bind_anchors (qualified_anchors inner) fun parts partsHeld => ?_
  obtain ⟨_, typesHeld⟩ := (anchored_pair parts).mp partsHeld
  exact pure_anchors (by simp [typesHeld])

theorem inferred_type_anchors {conditional : Bool} :
    Anchors source (inferredType grammar conditional) := by
  refine bind_anchors word_anchors fun start _ => ?_
  refine bind_anchors take_if_anchors fun _ _ => ?_
  refine bind_anchors
      (optional_anchors
        (bind_anchors (seq_right_anchors word_anchors (inner _)) fun bound boundHeld =>
          bind_anchors peek_anchors fun token _ =>
            ite_anchors failure_anchors (pure_anchors (by simp [boundHeld]))))
      fun bound boundHeld => ?_
  exact pure_anchors (by simp [boundHeld])

theorem function_type_anchors : Anchors source (functionType grammar) := by
  refine bind_anchors here_anchors fun start _ => ?_
  refine bind_anchors (optional_anchors word_anchors) fun _ _ => ?_
  refine bind_anchors (optional_anchors word_anchors) fun _ _ => ?_
  refine bind_anchors (optional_anchors (type_parameters_anchors inner)) fun types typesHeld => ?_
  refine bind_anchors (parameters_anchors inner) fun list listHeld => ?_
  refine bind_anchors mark_anchors fun _ _ => ?_
  refine bind_anchors (inner _) fun result resultHeld => ?_
  exact pure_anchors (by simp [typesHeld, listHeld, resultHeld])

theorem enclosed_type_anchors : Anchors source (enclosedType grammar) := by
  refine bind_anchors mark_anchors fun start _ => ?_
  refine bind_anchors (inner _) fun type typeHeld => ?_
  refine bind_anchors mark_anchors fun _ _ => ?_
  exact pure_anchors (by simp [typeHeld])

theorem object_type_anchors : Anchors source (objectType grammar) := by
  refine bind_anchors mark_anchors fun start _ => ?_
  refine bind_anchors (many_anchors (type_member_anchors inner)) fun members membersHeld => ?_
  refine bind_anchors (many_anchors separator_anchors) fun _ _ => ?_
  refine bind_anchors mark_anchors fun _ _ => ?_
  exact pure_anchors (by simp [membersHeld])

theorem tuple_member_anchors : Anchors source (tupleMember grammar) := by
  refine bind_anchors (optional_anchors mark_anchors) fun _ _ => ?_
  refine bind_anchors (optional_anchors place_name_anchors) fun _ _ => ?_
  refine bind_anchors (optional_anchors mark_anchors) fun _ _ => ?_
  refine bind_anchors (inner _) fun type typeHeld => ?_
  refine bind_anchors (optional_anchors mark_anchors) fun _ _ => ?_
  exact pure_anchors (by simp [typeHeld])

theorem tuple_type_anchors : Anchors source (tupleType grammar) := by
  refine bind_anchors mark_anchors fun start _ => ?_
  refine bind_anchors
      (comma_list_anchors (tuple_member_anchors inner))
      fun members membersHeld => ?_
  refine bind_anchors mark_anchors fun _ _ => ?_
  exact pure_anchors (by simp [membersHeld])

theorem primary_type_anchors {conditional : Bool} :
    Anchors source (primaryType grammar conditional) := by
  refine bind_anchors peek_anchors fun token _ => ?_
  split
  · split
    · exact queried_type_anchors inner
    · exact imported_type_anchors inner
    · exact or_else_anchors (inferred_type_anchors inner) (named_type_anchors inner)
    · exact function_type_anchors inner
    · exact or_else_anchors (function_type_anchors inner) (named_type_anchors inner)
    · refine or_else_anchors (assertion_anchors inner) ?_
      exact or_else_anchors (predicate_anchors inner) (named_type_anchors inner)
  · exact template_anchors (inner _)
  · split
    · exact or_else_anchors (function_type_anchors inner) (enclosed_type_anchors inner)
    · exact function_type_anchors inner
    · exact object_type_anchors inner
    · exact tuple_type_anchors inner
    · exact literal_type_anchors
  · exact literal_type_anchors

theorem type_index_anchors : Anchors source (typeIndex grammar) := by
  refine bind_anchors take_if_anchors fun start _ => ?_
  refine bind_anchors (optional_anchors (inner _)) fun index indexHeld => ?_
  refine bind_anchors mark_anchors fun _ _ => ?_
  exact pure_anchors (by simp [indexHeld])

theorem type_operand_anchors {conditional : Bool} :
    Anchors source (typeOperand grammar conditional) := by
  refine bind_anchors here_anchors fun start _ => ?_
  refine bind_anchors (many_anchors type_operator_anchors) fun operators operatorsHeld => ?_
  refine bind_anchors (primary_type_anchors inner) fun type typeHeld => ?_
  refine bind_anchors (many_anchors (type_index_anchors inner)) fun indexes indexesHeld => ?_
  exact ite_anchors
    (pure_anchors (by simp [typeHeld]))
    (pure_anchors (by simp [typeHeld, indexesHeld]))

theorem plain_type_anchors {conditional : Bool} :
    Anchors source (plainType grammar conditional) := by
  have bar : Anchors source (mark "|" <|> mark "&") := or_else_anchors mark_anchors mark_anchors
  refine bind_anchors here_anchors fun start _ => ?_
  refine bind_anchors (optional_anchors bar) fun leading _ => ?_
  refine bind_anchors (sep_by_anchors (type_operand_anchors inner) bar) fun types typesHeld => ?_
  split
  · exact pure_anchors (by simpa using typesHeld)
  · exact pure_anchors (by simpa using typesHeld)

theorem type_condition_anchors : Anchors source (typeCondition grammar) := by
  refine bind_anchors word_anchors fun _ _ => ?_
  refine bind_anchors (inner _) fun bound boundHeld => ?_
  refine bind_anchors mark_anchors fun _ _ => ?_
  refine bind_anchors (inner _) fun yes yesHeld => ?_
  refine bind_anchors mark_anchors fun _ _ => ?_
  refine bind_anchors (inner _) fun no noHeld => ?_
  exact pure_anchors (by simp [boundHeld, yesHeld, noHeld])

theorem type_anchors : Anchors source (type grammar) := by
  refine bind_anchors here_anchors fun start _ => ?_
  refine bind_anchors (plain_type_anchors inner) fun first firstHeld => ?_
  refine bind_anchors (optional_anchors (type_condition_anchors inner)) fun rest restHeld => ?_
  split
  · exact pure_anchors firstHeld
  · exact pure_anchors (by simpa [firstHeld] using restHeld)

/-! Classes, interfaces and enumerations. -/

theorem plain_base_anchors : Anchors source (plainBase grammar) := by
  refine bind_anchors take_if_anchors fun name _ => ?_
  refine bind_anchors (optional_anchors (type_arguments_anchors inner)) fun types typesHeld => ?_
  refine bind_anchors ends_base_anchors fun _ _ => ?_
  exact pure_anchors (by split <;> simp [positionedTypes, typesHeld])

theorem computed_base_anchors : Anchors source (computedBase grammar) := by
  refine bind_anchors (expression_anchors inner) fun base baseHeld => ?_
  refine bind_anchors (optional_anchors (type_arguments_anchors inner)) fun types typesHeld => ?_
  exact pure_anchors (by simp [baseHeld, typesHeld])

theorem base_clause_anchors : Anchors source (baseClause grammar) := by
  refine bind_anchors word_anchors fun start _ => ?_
  refine bind_anchors
      (sep_by_anchors
        (or_else_anchors (plain_base_anchors inner) (computed_base_anchors inner))
        mark_anchors)
      fun bases basesHeld => ?_
  exact pure_anchors (by simp [positionedTypes, basesHeld])

theorem type_clause_anchors {keyword type : String} (unplaced : type ∉ positionedTypes) :
    Anchors source (typeClause grammar keyword type) := by
  refine bind_anchors word_anchors fun start _ => ?_
  refine bind_anchors (sep_by_anchors (inner _) mark_anchors) fun types typesHeld => ?_
  exact pure_anchors (by simp [unplaced, typesHeld])

theorem static_block_anchors : Anchors source (staticBlock grammar) :=
  seq_right_anchors word_anchors (block_anchors inner)

theorem class_member_anchors : Anchors source (classMember grammar) := by
  refine bind_anchors
      (or_else_anchors
        (decorator_anchors inner)
        (or_else_anchors
          (static_block_anchors inner)
          (or_else_anchors (index_member_anchors inner) (named_member_anchors inner (by decide)))))
      fun member memberHeld => ?_
  refine bind_anchors (many_anchors separator_anchors) fun _ _ => ?_
  exact pure_anchors (by simp [memberHeld])

theorem enum_member_anchors : Anchors source (enumMember grammar) := by
  refine bind_anchors here_anchors fun start _ => ?_
  refine bind_anchors (member_name_anchors inner) fun name nameHeld => ?_
  refine bind_anchors (optional_anchors (initial_anchors inner)) fun value valueHeld => ?_
  refine bind_anchors (optional_anchors mark_anchors) fun _ _ => ?_
  split
  · exact pure_anchors nameHeld
  · exact pure_anchors (by simpa [positionedTypes, nameHeld] using valueHeld)

theorem class_node_anchors {type : String} {start : Cursor} {decorators : List RawNode}
    (stands : Anchor source start.point) (held : Anchored source decorators) :
    Anchors source (classNode grammar type start decorators) := by
  refine bind_anchors (optional_anchors word_anchors) fun abstraction _ => ?_
  refine bind_anchors word_anchors fun _ _ => ?_
  refine bind_anchors (optional_anchors take_if_anchors) fun name _ => ?_
  refine bind_anchors (optional_anchors (type_parameters_anchors inner)) fun types typed => ?_
  refine bind_anchors here_anchors fun heritage _ => ?_
  refine bind_anchors (optional_anchors (base_clause_anchors inner)) fun base based => ?_
  refine bind_anchors
      (optional_anchors (type_clause_anchors inner (by decide)))
      fun interfaces listed => ?_
  refine bind_anchors
      (body_anchors (by decide)
        (or_else_anchors separator_node_anchors (class_member_anchors inner)))
      fun body inside => pure_anchors ?_
  have marked : Anchored source (abstraction.map Token.plain) :=
    anchored_map _ _ anchored_plain
  have named : Anchored source (name.map (·.node "type_identifier")) :=
    anchored_map _ _ fun token => by simp [positionedTypes]
  simp [stands, held, marked, named, typed, based, listed, inside]

-- A class starts at its first decorator, or else at `abstract` or at `class`.
theorem decorated_class_anchors {type : String} :
    Anchors source (decoratedClass grammar type) := by
  apply here_bind_anchors
  · intro start place ended
    have refused : decorator grammar place = none := by
      simp [decorator, mark_at_end _ place ended]
    simp [many_stops _ place refused, classNode, word_at_end _ place ended]
  · intro start stands
    refine bind_anchors (many_anchors (decorator_anchors inner)) fun decorators held => ?_
    exact class_node_anchors inner stands held

theorem class_expression_anchors : Anchors source (classExpression grammar) :=
  decorated_class_anchors inner

theorem interface_node_anchors : Anchors source (interfaceNode grammar) := by
  refine word_bind_anchors fun start stands => ?_
  refine bind_anchors take_if_anchors fun name _ => ?_
  refine bind_anchors (optional_anchors (type_parameters_anchors inner)) fun types typed => ?_
  refine bind_anchors (optional_anchors (type_clause_anchors inner (by decide))) fun base based => ?_
  refine bind_anchors
      (body_anchors (by decide)
        (or_else_anchors separator_node_anchors (type_member_anchors inner)))
      fun body inside => ?_
  exact pure_anchors (by simp [positionedTypes, stands, typed, based, inside])

theorem enum_node_anchors : Anchors source (enumNode grammar) := by
  apply here_bind_anchors
  · intro start place ended
    simp [word_at_end _ place ended]
  · intro start stands
    refine bind_anchors (optional_anchors word_anchors) fun _ _ => ?_
    refine bind_anchors word_anchors fun _ _ => ?_
    refine bind_anchors take_if_anchors fun name _ => ?_
    refine bind_anchors (body_anchors (by decide) (enum_member_anchors inner)) fun body inside => ?_
    exact pure_anchors (by simp [positionedTypes, stands, inside])

end Phrases

end SourceAtlas.TypeScript
