import SourceAtlas.Proofs.AnchoredPhrases
import SourceAtlas.TypeScript.Expression

/-!
The rules of the grammar for markup and expressions. None of them makes a node whose position
counts, so each anchors what it gives because its parts do.
-/

open SourceAtlas.TypeScript.Parser

namespace SourceAtlas.TypeScript

variable {source : String}

/-! Rules without a phrase inside. -/

theorem regex_anchors : Anchors source regex := by
  refine bind_anchors here_anchors fun start _ => ?_
  refine bind_anchors take_as_anchors fun _ _ => ?_
  exact pure_anchors (by simp)

theorem tag_name_anchors : Anchors source tagName := by
  have joint : Anchors source (mark "." <|> mark ":" <|> mark "-" <|> mark "--") :=
    or_else_anchors mark_anchors
      (or_else_anchors mark_anchors (or_else_anchors mark_anchors mark_anchors))
  refine bind_anchors take_if_anchors fun _ _ => ?_
  refine bind_anchors (many_anchors (seq_right_anchors joint take_if_anchors)) fun _ _ => ?_
  exact pure_anchors (by simp)

theorem closing_tag_anchors : Anchors source closingTag := by
  refine bind_anchors take_raw_anchors fun _ _ => ?_
  refine bind_anchors mark_anchors fun _ _ => ?_
  refine bind_anchors mark_anchors fun _ _ => ?_
  refine bind_anchors (optional_anchors tag_name_anchors) fun _ _ => ?_
  refine bind_anchors mark_anchors fun _ _ => ?_
  exact pure_anchors (by simp)

theorem new_target_anchors : Anchors source newTarget := by
  refine bind_anchors word_anchors fun start _ => ?_
  refine bind_anchors mark_anchors fun _ _ => ?_
  refine bind_anchors word_anchors fun _ _ => ?_
  exact pure_anchors (by simp)

theorem opens_type_parameters_anchors : Anchors source opensTypeParameters :=
  ahead_anchors

theorem leading_operator_anchors : Anchors source leadingOperator := by
  refine bind_anchors peek_anchors fun token _ => ?_
  refine bind_anchors peek_second_anchors fun second _ => ?_
  refine ite_anchors take_anchors (ite_anchors take_anchors (ite_anchors take_anchors ?_))
  refine ite_anchors (seq_right_anchors take_anchors take_anchors) ?_
  exact ite_anchors take_anchors failure_anchors

theorem ends_type_arguments_anchors : Anchors source endsTypeArguments := by
  refine bind_anchors peek_anchors fun token _ => ?_
  exact ite_anchors failure_anchors (ite_anchors (pure_anchors (by simp)) failure_anchors)

theorem angle_operator_anchors : Anchors source angleOperator := by
  refine bind_anchors (or_else_anchors mark_anchors mark_anchors) fun first _ => ?_
  refine bind_anchors
      (many_anchors (bind_anchors get_anchors fun place _ => take_if_anchors))
      fun _ _ => ?_
  exact pure_anchors (by simp)

theorem operator_anchors {mode : ExpressionMode} : Anchors source (operator mode) := by
  refine bind_anchors peek_anchors fun token _ => ?_
  exact ite_anchors
    (bind_anchors take_anchors fun _ _ => pure_anchors (by simp))
    angle_operator_anchors

section Phrases

variable {grammar : Grammar} (inner : ∀ phrase, Anchors source (grammar phrase))

include inner

/-! Markup. -/

theorem embedded_anchors : Anchors source (embedded grammar) := by
  refine bind_anchors mark_anchors fun start _ => ?_
  refine bind_anchors (optional_anchors mark_anchors) fun _ _ => ?_
  refine bind_anchors (optional_anchors (sequence_anchors inner)) fun inside insideHeld => ?_
  refine bind_anchors mark_anchors fun _ _ => ?_
  exact pure_anchors (by simp [insideHeld])

theorem attribute_value_anchors : Anchors source (attributeValue grammar) := by
  refine bind_anchors here_anchors fun start _ => ?_
  refine or_else_anchors (embedded_anchors inner) (or_else_anchors (inner _) ?_)
  exact bind_anchors take_as_anchors fun _ _ => pure_anchors (by simp)

theorem tag_attribute_anchors : Anchors source (tagAttribute grammar) := by
  refine bind_anchors here_anchors fun start _ => or_else_anchors (embedded_anchors inner) ?_
  refine bind_anchors tag_name_anchors fun _ _ => ?_
  refine bind_anchors
      (optional_anchors (seq_right_anchors mark_anchors (attribute_value_anchors inner)))
      fun value valueHeld => ?_
  exact pure_anchors (by simp [valueHeld])

theorem markup_child_anchors : Anchors source (markupChild grammar) := by
  refine bind_anchors take_raw_anchors fun _ _ => ?_
  exact or_else_anchors (embedded_anchors inner) (inner _)

theorem element_anchors : Anchors source (element grammar) := by
  have closed : Anchors source do
      let _ ← mark ">"
      let children ← many (markupChild grammar)
      closingTag
      return children := by
    refine bind_anchors mark_anchors fun _ _ => ?_
    refine bind_anchors (many_anchors (markup_child_anchors inner)) fun children held => ?_
    refine bind_anchors closing_tag_anchors fun _ _ => ?_
    exact pure_anchors held
  refine bind_anchors mark_anchors fun start _ => ?_
  refine bind_anchors (optional_anchors tag_name_anchors) fun name _ => ?_
  -- Only an element with a name has type arguments and attributes, or may be empty.
  cases name with
  | none =>
      simp only [Option.isSome_none, Bool.false_eq_true, if_false]
      refine bind_anchors (pure_anchors (by simp)) fun types typesHeld => ?_
      refine bind_anchors (pure_anchors (by simp)) fun attributes attributesHeld => ?_
      refine bind_anchors (or_else_anchors closed failure_anchors) fun children childrenHeld => ?_
      exact pure_anchors (by simp [typesHeld, attributesHeld, childrenHeld])
  | some _ =>
      simp only [Option.isSome_some, if_true]
      refine bind_anchors
          (optional_anchors (type_arguments_anchors inner))
          fun types typesHeld => ?_
      refine bind_anchors (many_anchors (tag_attribute_anchors inner)) fun list listHeld => ?_
      refine bind_anchors (or_else_anchors closed ?_) fun children childrenHeld => ?_
      · refine bind_anchors mark_anchors fun _ _ => ?_
        exact bind_anchors mark_anchors fun _ _ => pure_anchors (by simp)
      · exact pure_anchors (by simp [typesHeld, listHeld, childrenHeld])

/-! Expressions. -/

theorem arrow_body_anchors {mode : ExpressionMode} :
    Anchors source (arrowBody grammar mode) := by
  refine bind_anchors mark_anchors fun _ _ => ?_
  refine bind_anchors peek_anchors fun token _ => ?_
  exact ite_anchors (block_anchors inner) (inner _)

theorem enclosed_anchors : Anchors source (enclosed grammar) := by
  refine bind_anchors here_anchors fun start _ => ?_
  refine bind_anchors (spread_anchors inner) fun inside insideHeld => ?_
  refine bind_anchors (optional_anchors mark_anchors) fun _ _ => ?_
  refine bind_anchors (optional_anchors (ascription_anchors inner)) fun type typeHeld => ?_
  refine bind_anchors (optional_anchors (initial_anchors inner)) fun value valueHeld => ?_
  exact ite_anchors
    (pure_anchors (by simp [insideHeld]))
    (pure_anchors (by simp [insideHeld, typeHeld, valueHeld]))

theorem parenthesized_anchors {mode : ExpressionMode} :
    Anchors source (parenthesized grammar mode) := by
  refine bind_anchors mark_anchors fun start _ => ?_
  refine bind_anchors (comma_list_anchors (enclosed_anchors inner)) fun inside insideHeld => ?_
  refine bind_anchors mark_anchors fun _ _ => ?_
  refine bind_anchors (optional_anchors (or_else_anchors ?_ (ite_anchors ?_ failure_anchors)))
      fun behind behindHeld => pure_anchors (by simp [insideHeld, behindHeld])
  · exact bind_anchors (arrow_body_anchors inner) fun body held => pure_anchors (by simp [held])
  · refine bind_anchors (ascription_anchors inner) fun type typeHeld => ?_
    refine bind_anchors (arrow_body_anchors inner) fun body bodyHeld => ?_
    exact pure_anchors (by simp [typeHeld, bodyHeld])

theorem function_expression_anchors : Anchors source (functionExpression grammar) := by
  refine bind_anchors here_anchors fun start _ => ?_
  refine bind_anchors (optional_anchors word_anchors) fun _ _ => ?_
  refine bind_anchors word_anchors fun _ _ => ?_
  refine bind_anchors (optional_anchors mark_anchors) fun _ _ => ?_
  refine bind_anchors (optional_anchors take_if_anchors) fun _ _ => ?_
  refine bind_anchors (signature_anchors inner) fun signature signatureHeld => ?_
  refine bind_anchors (block_anchors inner) fun body bodyHeld => ?_
  exact pure_anchors (by simp [signatureHeld, bodyHeld])

theorem arrow_function_anchors {mode : ExpressionMode} :
    Anchors source (arrowFunction grammar mode) := by
  refine bind_anchors take_if_anchors fun name _ => ?_
  refine bind_anchors (arrow_body_anchors inner) fun body bodyHeld => ?_
  exact pure_anchors (by simp [bodyHeld])

theorem async_expression_anchors {mode : ExpressionMode} :
    Anchors source (asyncExpression grammar mode) := by
  refine bind_anchors word_anchors fun start _ => ?_
  refine bind_anchors peek_anchors fun token _ => ?_
  refine or_else_anchors (ite_anchors failure_anchors (arrow_function_anchors inner)) ?_
  refine or_else_anchors ?_ (pure_anchors (by simp [positionedTypes]))
  refine bind_anchors (optional_anchors (type_parameters_anchors inner)) fun types typesHeld => ?_
  refine bind_anchors (parenthesized_anchors inner) fun inside insideHeld => ?_
  exact pure_anchors (by simp [typesHeld, insideHeld])

theorem word_operand_anchors {mode : ExpressionMode} {token : Token} :
    Anchors source (wordOperand grammar mode token) := by
  refine ite_anchors (taken_node_anchors take_anchors (by decide)) ?_
  refine ite_anchors (function_expression_anchors inner) ?_
  refine ite_anchors (class_expression_anchors inner) (ite_anchors new_target_anchors ?_)
  refine ite_anchors (bind_anchors peek_second_anchors fun second _ => ?_) ?_
  · refine ite_anchors (function_expression_anchors inner) ?_
    exact or_else_anchors (arrow_function_anchors inner) (async_expression_anchors inner)
  · refine or_else_anchors (arrow_function_anchors inner) ?_
    exact taken_node_anchors take_if_anchors (by decide)

theorem angled_anchors {language : Language} {mode : ExpressionMode} :
    Anchors source (angled language grammar mode) := by
  refine bind_anchors here_anchors fun start _ => ?_
  refine bind_anchors opens_type_parameters_anchors fun generic _ => ite_anchors (inner _) ?_
  refine bind_anchors
      (or_else_anchors (type_parameters_anchors inner) (type_arguments_anchors inner))
      fun types typesHeld => ?_
  refine bind_anchors (inner _) fun operand operandHeld => ?_
  exact pure_anchors (by simp [typesHeld, operandHeld])

theorem primary_anchors {language : Language} {mode : ExpressionMode} :
    Anchors source (primary language grammar mode) := by
  refine bind_anchors peek_anchors fun token _ => ?_
  split
  · exact word_operand_anchors inner
  · exact taken_node_anchors take_anchors (by decide)
  · exact taken_node_anchors take_anchors (by decide)
  · exact taken_node_anchors take_anchors (by decide)
  · exact template_anchors (sequence_anchors inner)
  · split
    · exact parenthesized_anchors inner
    · exact angled_anchors inner
    · exact class_expression_anchors inner
    · exact regex_anchors
    · exact regex_anchors
    · exact inner _
  · exact failure_anchors

theorem suffix_anchors : Anchors source (suffix grammar) := by
  refine bind_anchors peek_anchors fun token _ => ?_
  split
  · refine bind_anchors (template_anchors (sequence_anchors inner)) fun text textHeld => ?_
    exact pure_anchors (by simp [textHeld])
  · split
    · refine bind_anchors take_anchors fun _ _ => ?_
      exact bind_anchors take_if_anchors fun _ _ => pure_anchors (by simp)
    · refine bind_anchors take_anchors fun _ _ => ?_
      exact bind_anchors (optional_anchors take_if_anchors) fun _ _ => pure_anchors (by simp)
    · exact arguments_anchors inner
    · refine bind_anchors take_anchors fun _ _ => ?_
      refine bind_anchors (sequence_anchors inner) fun index indexHeld => ?_
      exact bind_anchors mark_anchors fun _ _ => pure_anchors (by simp [indexHeld])
    · refine bind_anchors (type_arguments_anchors inner) fun types typesHeld => ?_
      exact bind_anchors ends_type_arguments_anchors fun _ _ => pure_anchors (by simp [typesHeld])
    · exact bind_anchors take_if_anchors fun _ _ => pure_anchors (by simp)
  · exact failure_anchors

theorem operand_anchors {language : Language} {mode : ExpressionMode} :
    Anchors source (operand language grammar mode) := by
  refine bind_anchors here_anchors fun start _ => ?_
  refine bind_anchors (many_anchors leading_operator_anchors) fun operators operatorsHeld => ?_
  refine bind_anchors (primary_anchors inner) fun inside insideHeld => ?_
  refine bind_anchors (many_anchors (suffix_anchors inner)) fun suffixes suffixesHeld => ?_
  exact ite_anchors
    (pure_anchors (by simp [insideHeld]))
    (pure_anchors (by simp [insideHeld, suffixesHeld]))

theorem choice_anchors {mode : ExpressionMode} :
    Anchors source (choice grammar mode) := by
  refine bind_anchors peek_second_anchors fun second _ => ite_anchors failure_anchors ?_
  refine bind_anchors mark_anchors fun _ _ => ?_
  refine bind_anchors
      (or_else_anchors
        (seq_left_anchors (expression_anchors inner) mark_anchors)
        (seq_left_anchors (inner _) mark_anchors))
      fun yes yesHeld => ?_
  refine bind_anchors (inner _) fun no noHeld => ?_
  exact pure_anchors (by simp [yesHeld, noHeld])

theorem continuation_anchors {language : Language} {mode : ExpressionMode} :
    Anchors source (continuation language grammar mode) := by
  refine bind_anchors peek_anchors fun token _ => ite_anchors (choice_anchors inner) ?_
  refine ite_anchors (bind_anchors take_anchors fun _ _ => ?_) ?_
  · exact bind_anchors (inner _) fun type typeHeld => pure_anchors (by simp [typeHeld])
  · refine bind_anchors operator_anchors fun _ _ => ?_
    exact bind_anchors (operand_anchors inner) fun last held => pure_anchors (by simp [held])

theorem whole_expression_anchors {language : Language} {mode : ExpressionMode} :
    Anchors source (expression language grammar mode) := by
  refine bind_anchors here_anchors fun start _ => ?_
  refine bind_anchors (operand_anchors inner) fun first firstHeld => ?_
  refine bind_anchors (many_anchors (continuation_anchors inner)) fun rest restHeld => ?_
  exact ite_anchors
    (pure_anchors (by simp [firstHeld]))
    (pure_anchors (by simp [firstHeld, restHeld]))

end Phrases

end SourceAtlas.TypeScript
