import SourceAtlas.Proofs.ParserLaws
import SourceAtlas.Proofs.PlainLexemes
import SourceAtlas.Proofs.PlainTrees
import SourceAtlas.TypeScript.Program

/-!
Types and clauses of plain sources, parsed.

A type is tried as much else before it is taken for a name, and a list of names may be continued in
many ways. Both end at the first mark, because none of the few marks of a plain source goes on with
them.
-/

open SourceAtlas.TypeScript SourceAtlas.TypeScript.Parser

namespace SourceAtlas.Plain

variable (grammar : Grammar) (passed : List Char) (lexeme : Lexeme) (lexemes : List Lexeme)

/-! The nodes that rules make. -/

theorem holds_made (start : Cursor) (type : String) (parts : List RawNode)
    (named : ∀ part ∈ parts, part.named = true) : Holds type parts (nodeWith start type parts) := by
  refine ⟨rfl, rfl, List.filter_eq_self.mpr named, ?_⟩
  intro child member unnamed
  exact absurd (named child member) (by simp [unnamed])

theorem spells_leaf (token : Token) (type : String) :
    Spells type token.text (token.node type) :=
  ⟨rfl, rfl, rfl, by simp [Token.node]⟩

theorem spells_named {type : String} (names : List TypeName) (nodes : List RawNode)
    (spelled : List.Forall₂ (fun name => Spells type name.text) names nodes) :
    ∀ node ∈ nodes, node.named = true := by
  induction spelled with
  | nil => simp
  | cons spells _ ih => exact List.forall_mem_cons.mpr ⟨spells.named, ih⟩

/-! Phrases that begin with a mark which plain sources do not have. -/

theorem type_arguments_refuse (trails : Trails lexeme lexemes) :
    typeArguments grammar (Place.facing passed (lexeme :: lexemes)) = none := by
  simp [typeArguments, trails, Sign.text]

theorem type_parameters_refuse (trails : Trails lexeme lexemes) :
    typeParameters grammar (Place.facing passed (lexeme :: lexemes)) = none := by
  simp [typeParameters, trails, Sign.text]

theorem decorator_refuses (trails : Trails lexeme lexemes) :
    decorator grammar (Place.facing passed (lexeme :: lexemes)) = none := by
  simp [decorator, trails, Sign.text]

theorem signature_refuses (trails : Trails lexeme lexemes) :
    signature grammar (Place.facing passed (lexeme :: lexemes)) = none := by
  simp [signature, parameters, trails, Sign.text, type_parameters_refuse]

/-! Types that are one word. -/

variable (gap behind : Gap) (name : Word) (sign : Sign)

theorem qualified_ends (trails : Trails lexeme lexemes) :
    qualified grammar (Place.facing passed (lexeme :: lexemes)) =
      some (([], none), Place.facing passed (lexeme :: lexemes)) := by
  have path : many (mark "." *> takeIf Token.isMemberName)
      (Place.facing passed (lexeme :: lexemes)) =
        some ([], Place.facing passed (lexeme :: lexemes)) := by
    apply many_stops
    simp [trails, Sign.text]
  simp [qualified, path, type_arguments_refuse, trails]

/-- Words that mean something in front of a type or as its beginning. -/
def typeOperators : List String :=
  ["typeof", "import", "infer", "new", "abstract", "asserts", "keyof", "unique", "readonly"]

/-- The node of a type that is one word. -/
def typeNode (token : Token) : RawNode :=
  token.node (if builtinTypes.contains token.text then "predefined_type" else "type_identifier")

/-- What is made of a type that is one word, and the place behind it. -/
def oneWordType (passed : List Char) (gap : Gap) (name : Word) (rest : List Lexeme) :
    RawNode × Place :=
  (typeNode ((Lexeme.word gap name).token passed rest),
    Place.facing (passed ++ (Lexeme.word gap name).spelled) rest)

theorem named_type_takes (spaced : Spaced lexemes) :
    namedType grammar (Place.facing passed (.word gap name :: .mark behind sign :: lexemes)) =
      some (oneWordType passed gap name (.mark behind sign :: lexemes)) := by
  simp [namedType, spaced, qualified_ends, oneWordType, typeNode]
  split <;> simp_all

theorem primary_type_ordinary (conditional : Bool) (place : Place)
    (word : place.token.sort = .word)
    (ordinary : place.token.text ∉ typeOperators) :
    primaryType grammar conditional place =
      (assertion grammar <|> predicate grammar <|> namedType grammar) place := by
  simp [typeOperators] at ordinary
  simp only [primaryType, bind_run, peek_run, Option.bind_some, word]
  apply congrFun
  split <;> simp_all

section OneWord

variable (spaced : Spaced lexemes) (ordinary : name.text ∉ typeOperators)

include spaced ordinary

theorem primary_type_takes (conditional : Bool) :
    primaryType grammar conditional
        (Place.facing passed (.word gap name :: .mark behind sign :: lexemes)) =
      some (oneWordType passed gap name (.mark behind sign :: lexemes)) := by
  rw [primary_type_ordinary]
  · simp [typeOperators] at ordinary
    simp [assertion, predicate, spaced, ordinary, named_type_takes, Token.isWordOf]
  · simp [spaced]
  · simpa [spaced] using ordinary

theorem type_operand_takes (conditional : Bool) :
    typeOperand grammar conditional
        (Place.facing passed (.word gap name :: .mark behind sign :: lexemes)) =
      some (oneWordType passed gap name (.mark behind sign :: lexemes)) := by
  have operators : many typeOperator
      (Place.facing passed (.word gap name :: .mark behind sign :: lexemes)) =
        some ([], Place.facing passed (.word gap name :: .mark behind sign :: lexemes)) := by
    apply many_stops
    simp [typeOperators] at ordinary
    simp [typeOperator, spaced, Token.isAnyWord, ordinary]
  have indexes : ∀ before, many (typeIndex grammar)
      (Place.facing before (.mark behind sign :: lexemes)) =
        some ([], Place.facing before (.mark behind sign :: lexemes)) := by
    intro before
    apply many_stops
    cases sign <;> simp [typeIndex, spaced, Token.isMarkOf, Sign.text]
  simp [typeOperand, spaced, operators, indexes, primary_type_takes, ordinary, oneWordType]

theorem plain_type_takes (conditional : Bool) :
    plainType grammar conditional
        (Place.facing passed (.word gap name :: .mark behind sign :: lexemes)) =
      some (oneWordType passed gap name (.mark behind sign :: lexemes)) := by
  have others : ∀ before,
      many ((mark "|" <|> mark "&") *> typeOperand grammar conditional)
        (Place.facing before (.mark behind sign :: lexemes)) =
          some ([], Place.facing before (.mark behind sign :: lexemes)) := by
    intro before
    apply many_stops
    cases sign <;> simp [spaced, Sign.text]
  simp [plainType, sepBy1, spaced, others, type_operand_takes, ordinary, oneWordType]

theorem type_takes :
    type grammar (Place.facing passed (.word gap name :: .mark behind sign :: lexemes)) =
      some (oneWordType passed gap name (.mark behind sign :: lexemes)) := by
  simp [type, typeCondition, spaced, plain_type_takes, ordinary, oneWordType]

end OneWord

/-! Clauses. -/

/-- The rules for types are those of this grammar, with another one for what is inside. -/
structure Ties (grammar inner : Grammar) : Prop where
  plain : grammar .plainType = plainType inner false
  full : grammar .type = type inner

def StartsWithMark (rest : List Lexeme) : Prop :=
  ∃ gap sign more, rest = .mark gap sign :: more ∧ Spaced more

theorem type_name_takes (inner : Grammar) (ties : Ties grammar inner) (name : TypeName)
    (rest : List Lexeme) (marked : StartsWithMark rest) :
    ∃ node, Takes (grammar .plainType) passed [.word .spaced (typeWord name)] rest node ∧
      Spells "type_identifier" name.text node := by
  obtain ⟨gap, sign, more, rfl, spaced⟩ := marked
  have ordinary : (typeWord name).text ∉ typeOperators := name.not_among _ (by decide)
  have unknown : name.text ∉ builtinTypes := name.not_among _ (by decide)
  refine ⟨typeNode ((Lexeme.word .spaced (typeWord name)).token passed (.mark gap sign :: more)),
    ?_, ?_⟩
  · rw [Takes, ties.plain]
    simpa [oneWordType] using plain_type_takes inner passed more .spaced gap (typeWord name) sign
      spaced ordinary false
  · simp only [typeNode, token_text, Lexeme.text, type_word_text, List.contains_eq_mem, unknown,
      decide_false, Bool.false_eq_true, if_false]
    exact spells_leaf
      ((Lexeme.word .spaced (typeWord name)).token passed (.mark gap sign :: more)) _

theorem comma_starts (name : TypeName) (rest : List Lexeme) (marked : StartsWithMark rest) :
    StartsWithMark (commaLexemes name ++ rest) := by
  obtain ⟨gap, sign, more, rfl, spaced⟩ := marked
  exact ⟨.joined, .comma, _, rfl, by simpa using spaced⟩

theorem comma_name_takes (inner : Grammar) (ties : Ties grammar inner) (name : TypeName)
    (rest : List Lexeme) (marked : StartsWithMark rest) :
    ∃ node, Takes (mark "," *> grammar .plainType) passed (commaLexemes name) rest node ∧
      Spells "type_identifier" name.text node := by
  obtain ⟨node, taken, named⟩ := type_name_takes grammar
    (passed ++ (Lexeme.mark .joined .comma).spelled) inner ties name rest marked
  obtain ⟨gap, sign, more, rfl, spaced⟩ := marked
  refine ⟨node, ?_, named⟩
  rw [Takes] at taken ⊢
  simpa [commaLexemes, spaced, Sign.text] using taken

theorem list_takes (inner : Grammar) (ties : Ties grammar inner) (first : TypeName)
    (others : List TypeName) (noComma : sign ≠ .comma) (spaced : Spaced lexemes) :
    ∃ nodes, Takes (sepBy1 (grammar .plainType) (mark ",")) passed
        (listLexemes (first :: others)) (.mark behind sign :: lexemes) nodes ∧
      List.Forall₂ (fun name => Spells "type_identifier" name.text) (first :: others) nodes := by
  have ends : StartsWithMark (.mark behind sign :: lexemes) := ⟨behind, sign, lexemes, rfl, spaced⟩
  have marked : StartsWithMark (others.flatMap commaLexemes ++ .mark behind sign :: lexemes) := by
    induction others with
    | nil => exact ends
    | cons name rest ih =>
        rw [List.flatMap_cons, List.append_assoc]
        exact comma_starts name _ ih
  have stops : ∀ before, (mark "," *> grammar .plainType)
      (Place.facing before (.mark behind sign :: lexemes)) = none := by
    intro before
    cases sign <;> simp_all [Sign.text]
  obtain ⟨node, taken, named⟩ := type_name_takes grammar passed inner ties first _ marked
  obtain ⟨nodes, behind, names⟩ := many_takes (mark "," *> grammar .plainType) commaLexemes
    (fun name => Spells "type_identifier" name.text) StartsWithMark
    (by simp [commaLexemes, Lexeme.spelled, Gap.chars, Sign.text])
    (fun before => comma_name_takes grammar before inner ties) comma_starts
    (passed ++ spell [.word .spaced (typeWord first)]) others _ ends stops
  refine ⟨node :: nodes, ?_, .cons named names⟩
  have commas : listLexemes (first :: others) =
      [.word .spaced (typeWord first)] ++ others.flatMap commaLexemes := rfl
  rw [Takes] at taken behind ⊢
  rw [commas, List.append_assoc, spell_append]
  simp only [sepBy1, bind_run, taken, behind, Option.bind_some, pure_run, List.append_assoc]

theorem type_clause_takes (inner : Grammar) (ties : Ties grammar inner) (keyword : Word)
    (type : String) (names : List TypeName) (noComma : sign ≠ .comma) (spaced : Spaced lexemes) :
    ∃ clause, Takes (optional (typeClause grammar keyword.text type)) passed
        (clauseLexemes keyword names) (.mark behind sign :: lexemes) clause ∧
      ClauseTree type "type_identifier" names clause.toList := by
  cases names with
  | nil =>
      refine ⟨none, ?_, .absent⟩
      simp [Takes, clauseLexemes, typeClause, spaced]
  | cons first others =>
      obtain ⟨nodes, taken, spelled⟩ := list_takes grammar
        (passed ++ (Lexeme.word .spaced keyword).spelled) lexemes behind sign inner ties first
        others noComma spaced
      let start := (Lexeme.word .spaced keyword).token passed
        (listLexemes (first :: others) ++ .mark behind sign :: lexemes)
      refine ⟨some (nodeWith start.start type nodes), ?_, .clause _ nodes _ (by simp) rfl
        (holds_made _ _ _ (spells_named _ _ spelled)) spelled⟩
      rw [Takes] at taken ⊢
      simp [clauseLexemes, typeClause, spaced, taken, start]

/-- What can stand behind a superclass. -/
def EndsBase (rest : List Lexeme) : Prop :=
  (∃ gap more, rest = .mark gap .opening :: more ∧ Spaced more) ∨
    ∃ more, rest = .word .spaced implementsWord :: more ∧ Spaced more

theorem plain_base_takes (name : TypeName) (rest : List Lexeme) (ends : EndsBase rest) :
    Takes (plainBase grammar) passed [.word .spaced (typeWord name)] rest
      [(((Lexeme.word .spaced (typeWord name)).token passed rest).node "identifier").under
        "value"] := by
  have free : name.text ∉ reservedWords := name.not_among _ (by decide)
  have defined : name.text ∉ ["undefined"] := name.not_among _ (by decide)
  simp only [List.mem_singleton] at defined
  obtain ⟨gap, more, rfl, spaced⟩ | ⟨more, rfl, spaced⟩ := ends <;>
    simp [Takes, plainBase, spaced, Token.isName, free, type_arguments_refuse, endsBase,
      Token.isAnyMark, Token.isWordOf, Sign.text, defined]

theorem base_clause_takes (base : Option TypeName) (rest : List Lexeme) (ends : EndsBase rest) :
    ∃ clause, Takes (optional (baseClause grammar)) passed
        (clauseLexemes extendsWord base.toList) rest clause ∧
      ClauseTree "extends_clause" "identifier" base.toList clause.toList := by
  cases base with
  | none =>
      refine ⟨none, ?_, .absent⟩
      obtain ⟨gap, more, rfl, spaced⟩ | ⟨more, rfl, spaced⟩ := ends <;>
        simp [Takes, clauseLexemes, baseClause, spaced]
  | some name =>
      have taken := plain_base_takes grammar (passed ++ (Lexeme.word .spaced extendsWord).spelled)
        name rest ends
      have others : ∀ before, many (mark "," *> (plainBase grammar <|> computedBase grammar))
          (Place.facing before rest) = some ([], Place.facing before rest) := by
        intro before
        apply many_stops
        obtain ⟨gap, more, rfl, spaced⟩ | ⟨more, rfl, spaced⟩ := ends <;> simp [spaced, Sign.text]
      let keyword := (Lexeme.word .spaced extendsWord).token passed
        (.word .spaced (typeWord name) :: rest)
      let node := (((Lexeme.word .spaced (typeWord name)).token
        (passed ++ (Lexeme.word .spaced extendsWord).spelled) rest).node "identifier").under "value"
      have spells : Spells "identifier" name.text node :=
        ⟨rfl, rfl, rfl, by simp [node, Token.node, RawNode.under]⟩
      have holds := holds_made keyword.start "extends_clause" [node] (by simp [spells.named])
      refine ⟨some (nodeWith keyword.start "extends_clause" [node]), ?_,
        .clause _ [node] _ (by simp) rfl holds (.cons spells .nil)⟩
      have spaced : Spaced rest := by
        obtain ⟨gap, more, rfl, spaced⟩ | ⟨more, rfl, spaced⟩ := ends <;> simpa using spaced
      rw [Takes] at taken ⊢
      simp at taken
      simp [clauseLexemes, listLexemes, baseClause, sepBy1, spaced, taken, others, keyword, node]

end SourceAtlas.Plain
