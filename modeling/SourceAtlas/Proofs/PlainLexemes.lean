import SourceAtlas.Proofs.Lexemes
import SourceAtlas.Proofs.PlainSource

/-!
Plain sources as lexemes. The text of a source is what its lexemes spell, and its lines are counted
along them, because only the gaps between lexemes hold line feeds.
-/

open SourceAtlas.TypeScript

namespace SourceAtlas.Plain

/-! Names as words. -/

theorem upper_range (c : Char) (upper : c.isUpper = true) : 65 ≤ c.toNat ∧ c.toNat ≤ 90 :=
  of_decide_eq_true upper

theorem lower_range (c : Char) (lower : c.isLower = true) : 97 ≤ c.toNat ∧ c.toNat ≤ 122 := by
  have range : (97 ≤ c.val && c.val ≤ 122) = true := lower
  rw [Bool.and_eq_true, decide_eq_true_eq, decide_eq_true_eq] at range
  exact range

theorem digit_range (c : Char) (digit : c.isDigit = true) : 48 ≤ c.toNat ∧ c.toNat ≤ 57 := by
  have range : (48 ≤ c.val && c.val ≤ 57) = true := digit
  rw [Bool.and_eq_true, decide_eq_true_eq, decide_eq_true_eq] at range
  exact range

theorem alphanumeric_part (c : Char) (alphanumeric : c.isAlphanum = true) :
    Token.isWordPart c = true := by
  have small : c.toNat < 128 := by
    have sorts : ((c.isUpper || c.isLower) || c.isDigit) = true := alphanumeric
    rw [Bool.or_eq_true, Bool.or_eq_true] at sorts
    rcases sorts with (upper | lower) | digit
    · exact Nat.lt_of_le_of_lt (upper_range c upper).2 (by decide)
    · exact Nat.lt_of_le_of_lt (lower_range c lower).2 (by decide)
    · exact Nat.lt_of_le_of_lt (digit_range c digit).2 (by decide)
  have ascii : ∀ code < 128, (Char.ofNat code).isAlphanum = true →
      Token.isWordPart (Char.ofNat code) = true := by
    decide
  rw [← Char.ofNat_toNat c] at alphanumeric ⊢
  exact ascii c.toNat small alphanumeric

theorem type_form_word (chars : List Char) (formed : isTypeForm chars = true) :
    chars.head?.any Token.isWordStart = true ∧ chars.all Token.isWordPart = true := by
  cases chars with
  | nil => simp [isTypeForm] at formed
  | cons c rest =>
      simp only [isTypeForm, Bool.and_eq_true, List.all_eq_true] at formed
      obtain ⟨capital, others⟩ := formed
      have sorts : ((c.isUpper || c.isLower) || c.isDigit) = true := by simp [capital]
      have part := alphanumeric_part c sorts
      have letter : c.isDigit = false := by
        rw [Bool.eq_false_iff]
        intro digit
        have above := (upper_range c capital).1
        have below := (digit_range c digit).2
        omega
      constructor
      · simp [Token.isWordStart, part, letter]
      · simp only [List.all_cons, part, Bool.true_and, List.all_eq_true]
        exact fun d member => alphanumeric_part d (others d member)

theorem field_form_word (chars : List Char) (formed : isFieldForm chars = true) :
    chars.head?.any Token.isWordStart = true ∧ chars.all Token.isWordPart = true := by
  unfold isFieldForm at formed
  split at formed
  · rename_i digits
    rw [List.all_eq_true] at formed
    constructor
    · rfl
    · simp only [List.all_cons, List.all_eq_true, Bool.and_eq_true]
      refine ⟨by decide, fun d member => alphanumeric_part d ?_⟩
      simp [Char.isAlphanum, formed d member]
  · contradiction

def typeWord (name : TypeName) : Word :=
  ⟨name.text, (type_form_word _ name.formed).1, (type_form_word _ name.formed).2⟩

def fieldWord (name : FieldName) : Word :=
  ⟨name.text, (field_form_word _ name.formed).1, (field_form_word _ name.formed).2⟩

/-- Names are told from words that do not have their form. -/
theorem Name.not_among {form : List Char → Bool} (name : Name form) (words : List String)
    (foreign : words.all (fun word => !form word.toList) = true) :
    name.text ∉ words := by
  intro member
  have refused := List.all_eq_true.mp foreign name.text member
  simp [name.formed] at refused

/-! The lexemes of a written declaration. -/

def classWord : Word := ⟨"class", by decide, by decide⟩

def interfaceWord : Word := ⟨"interface", by decide, by decide⟩

def extendsWord : Word := ⟨"extends", by decide, by decide⟩

def implementsWord : Word := ⟨"implements", by decide, by decide⟩

def privateWord : Word := ⟨"private", by decide, by decide⟩

def protectedWord : Word := ⟨"protected", by decide, by decide⟩

def numberWord : Word := ⟨"number", by decide, by decide⟩

@[simp] theorem type_word_text (name : TypeName) : (typeWord name).text = name.text := rfl

@[simp] theorem field_word_text (name : FieldName) : (fieldWord name).text = name.text := rfl

@[simp] theorem class_text : classWord.text = "class" := rfl

@[simp] theorem interface_text : interfaceWord.text = "interface" := rfl

@[simp] theorem extends_text : extendsWord.text = "extends" := rfl

@[simp] theorem implements_text : implementsWord.text = "implements" := rfl

@[simp] theorem private_text : privateWord.text = "private" := rfl

@[simp] theorem protected_text : protectedWord.text = "protected" := rfl

@[simp] theorem number_text : numberWord.text = "number" := rfl

def commaLexemes (name : TypeName) : List Lexeme :=
  [.mark .joined .comma, .word .spaced (typeWord name)]

/-- Names with commas between them. -/
def listLexemes : List TypeName → List Lexeme
  | [] => []
  | first :: others => .word .spaced (typeWord first) :: others.flatMap commaLexemes

def clauseLexemes (keyword : Word) (names : List TypeName) : List Lexeme :=
  if names.isEmpty then [] else .word .spaced keyword :: listLexemes names

/-- The keyword of a field, where it has one. -/
def Field.keywordLexemes (field : Field) : List Lexeme :=
  match field.visibility with
  | .pub => []
  | .priv => [.word .indented privateWord]
  | .prot => [.word .indented protectedWord]

/-- What stands in front of the name of a field: the keyword, or the beginning of the line. -/
def Field.gap (field : Field) : Gap :=
  match field.visibility with
  | .pub => .indented
  | .priv => .spaced
  | .prot => .spaced

/-- A field up to its semicolon. -/
def Field.memberLexemes (field : Field) : List Lexeme :=
  field.keywordLexemes ++
    [.word field.gap (fieldWord field.name), .mark .joined .colon, .word .spaced numberWord]

def Field.lexemes (field : Field) : List Lexeme :=
  field.memberLexemes ++ [.mark .joined .semicolon]

/-- The brackets around fields, and the fields. -/
def bodyLexemes (fields : List Field) : List Lexeme :=
  .mark .spaced .opening :: fields.flatMap Field.lexemes ++ [.mark .broken .closing]

namespace Declaration

def keywordWord : Declaration → Word
  | objectClass _ _ _ _ => classWord
  | interface _ _ _ => interfaceWord

/-- The lexemes of a declaration that stands behind the given gap. -/
def lexemes (declaration : Declaration) (gap : Gap) : List Lexeme :=
  .word gap declaration.keywordWord :: .word .spaced (typeWord declaration.name) ::
    (clauseLexemes extendsWord declaration.bases ++
      clauseLexemes implementsWord declaration.interfaces ++ bodyLexemes declaration.fields)

end Declaration

/-- The lexemes of a whole source. Only what comes first stands at the very start of the text. -/
def sourceLexemes : Gap → List Declaration → List Lexeme
  | gap, [] => [.finish gap]
  | gap, declaration :: rest => declaration.lexemes gap ++ sourceLexemes .broken rest

/-! Every word of a source but the first is set apart from what is in front of it. -/

@[simp] theorem spaced_list (names : List TypeName) (rest : List Lexeme) :
    Spaced (listLexemes names ++ rest) ↔ Spaced rest := by
  cases names with
  | nil => rfl
  | cons first others =>
      induction others with
      | nil => simp [listLexemes]
      | cons second others ih => simpa [listLexemes, commaLexemes] using ih

@[simp] theorem spaced_clause (keyword : Word) (names : List TypeName) (rest : List Lexeme) :
    Spaced (clauseLexemes keyword names ++ rest) ↔ Spaced rest := by
  by_cases empty : names = [] <;> simp [clauseLexemes, empty]

@[simp] theorem spaced_field (field : Field) (rest : List Lexeme) :
    Spaced (field.lexemes ++ rest) ↔ Spaced rest := by
  obtain ⟨visibility, name⟩ := field
  cases visibility <;> simp [Field.lexemes, Field.memberLexemes, Field.keywordLexemes, Field.gap]

@[simp] theorem spaced_fields (fields : List Field) (rest : List Lexeme) :
    Spaced (fields.flatMap Field.lexemes ++ rest) ↔ Spaced rest := by
  induction fields with
  | nil => rfl
  | cons field others ih => rw [List.flatMap_cons, List.append_assoc, spaced_field, ih]

@[simp] theorem spaced_body (fields : List Field) (rest : List Lexeme) :
    Spaced (bodyLexemes fields ++ rest) ↔ Spaced rest := by
  simp [bodyLexemes]

theorem spaced_source (declarations : List Declaration) :
    Spaced (sourceLexemes .broken declarations) := by
  induction declarations with
  | nil => simp [sourceLexemes]
  | cons declaration rest ih => simpa [sourceLexemes, Declaration.lexemes] using ih

/-! The lexemes spell what is written. -/

theorem spell_list (names : List TypeName) (some : names ≠ []) :
    spell (listLexemes names) = ' ' :: (", ".intercalate (names.map (·.text))).toList := by
  cases names with
  | nil => contradiction
  | cons first others =>
      induction others generalizing first with
      | nil => simp [listLexemes, Lexeme.spelled, Gap.chars]
      | cons second others ih =>
          have behind := ih second (by simp)
          simp only [String.toList_intercalate, List.map_cons, listLexemes, List.flatMap_cons,
            spell_cons, spell_append] at behind ⊢
          rw [List.intercalate_cons_cons]
          simp_all [commaLexemes, Lexeme.spelled, Gap.chars, Sign.text]

theorem spell_clause (keyword : Word) (names : List TypeName) :
    spell (clauseLexemes keyword names) = (clauseText keyword.text names).toList := by
  by_cases empty : names = []
  · simp [clauseLexemes, clauseText, empty]
  · simp [clauseLexemes, clauseText, empty, spell_list names empty, Lexeme.spelled, Gap.chars]

theorem spell_field (field : Field) : spell field.lexemes = '\n' :: field.line.toList := by
  obtain ⟨visibility, name⟩ := field
  cases visibility <;>
    simp [Field.lexemes, Field.memberLexemes, Field.keywordLexemes, Field.gap, Field.line,
      visibilityText, Lexeme.spelled, Gap.chars, Sign.text]

/-- Lines as they stand in a text. -/
def written (lines : List String) : List Char :=
  lines.flatMap fun line => line.toList ++ ['\n']

-- The line feed behind a field is the one in front of what follows it.
theorem spell_fields (fields : List Field) :
    spell (fields.flatMap Field.lexemes) ++ ['\n'] = '\n' :: written (fields.map Field.line) := by
  induction fields with
  | nil => rfl
  | cons field rest ih =>
      simp only [List.flatMap_cons, spell_append, spell_field, List.append_assoc, ih, written,
        List.map_cons, List.cons_append, List.nil_append]

theorem spell_declaration (declaration : Declaration) (gap : Gap) :
    spell (declaration.lexemes gap) ++ ['\n'] = gap.chars ++ written declaration.lines := by
  have keyword : declaration.keywordWord.text = declaration.keyword := by
    cases declaration <;> rfl
  have fields : spell (declaration.fields.flatMap Field.lexemes) ++ '\n' :: ['}', '\n'] =
      '\n' :: written (declaration.fields.map Field.line) ++ ['}', '\n'] := by
    rw [← spell_fields, List.append_assoc]
    rfl
  have bases := spell_clause extendsWord declaration.bases
  have interfaces := spell_clause implementsWord declaration.interfaces
  simp only [written, List.cons_append] at fields
  simp [Declaration.lexemes, bodyLexemes, Declaration.lines, Declaration.header,
    written, Lexeme.spelled, Gap.chars, Sign.text, keyword, bases, interfaces, fields]

theorem written_lexemes (declaration : Declaration) :
    written declaration.lines = spell (declaration.lexemes .joined) ++ ['\n'] := by
  rw [spell_declaration]
  rfl

theorem source_cons (declaration : Declaration) (rest : List Declaration) :
    (source (declaration :: rest)).toList =
      written declaration.lines ++ (source rest).toList := by
  simp [source, lines, written, String.toList_join, List.flatMap_map]

theorem spell_source (gap : Gap) (declarations : List Declaration) :
    spell (sourceLexemes gap declarations) = gap.chars ++ (source declarations).toList := by
  induction declarations generalizing gap with
  | nil => simp [sourceLexemes, Lexeme.spelled, source, lines]
  | cons declaration rest ih =>
      have first := spell_declaration declaration gap
      calc spell (sourceLexemes gap (declaration :: rest))
          = spell (declaration.lexemes gap) ++ ['\n'] ++ (source rest).toList := by
            rw [sourceLexemes, spell_append, ih, List.append_assoc]
            rfl
        _ = gap.chars ++ (source (declaration :: rest)).toList := by
            rw [first, source_cons, List.append_assoc]

/-! Lines and positions. -/

theorem clause_breaks (keyword : Word) (names : List TypeName) :
    (clauseLexemes keyword names).countP Lexeme.breaks = 0 := by
  cases names with
  | nil => rfl
  | cons first others =>
      have commas : (others.flatMap commaLexemes).countP Lexeme.breaks = 0 := by
        induction others with
        | nil => rfl
        | cons name rest ih => simpa [commaLexemes, Lexeme.breaks, Gap.chars] using ih
      simpa [clauseLexemes, listLexemes, Lexeme.breaks, Gap.chars] using commas

theorem field_breaks (field : Field) : field.lexemes.countP Lexeme.breaks = 1 := by
  obtain ⟨visibility, name⟩ := field
  cases visibility <;> rfl

theorem fields_breaks (fields : List Field) :
    (fields.flatMap Field.lexemes).countP Lexeme.breaks = fields.length := by
  induction fields with
  | nil => rfl
  | cons field rest ih =>
      rw [List.flatMap_cons, List.countP_append, field_breaks, ih, List.length_cons, Nat.add_comm]

theorem lines_length (declaration : Declaration) :
    declaration.lines.length = declaration.fields.length + 2 := by
  simp [Declaration.lines]

theorem written_breaks (declaration : Declaration) :
    (written declaration.lines).count '\n' = declaration.lines.length := by
  have keyword : Lexeme.breaks (.word .joined declaration.keywordWord) = false := rfl
  have name : Lexeme.breaks (.word .spaced (typeWord declaration.name)) = false := rfl
  have opening : Lexeme.breaks (.mark .spaced .opening) = false := rfl
  have closing : Lexeme.breaks (.mark .broken .closing) = true := rfl
  rw [written_lexemes, List.count_append, spell_breaks, lines_length]
  simp [Declaration.lexemes, bodyLexemes, clause_breaks, fields_breaks, keyword, name,
    opening, closing]

theorem past_row (chars : List Char) (point : Point) :
    (chars.foldl Point.past point).row = point.row + chars.count '\n' := by
  induction chars generalizing point with
  | nil => rfl
  | cons c rest ih =>
      rw [List.foldl_cons, ih, List.count_cons, Point.past]
      by_cases feed : c = '\n'
      · simp only [feed, if_true, beq_self_eq_true]
        omega
      · simp [feed]

/-- Behind a line feed a line begins, as many lines further on as line feeds were passed. -/
theorem past_written (declaration : Declaration) (row : Nat) :
    (written declaration.lines).foldl Point.past ⟨row, 0⟩ =
      ⟨row + declaration.lines.length, 0⟩ := by
  have reached := past_row (written declaration.lines) ⟨row, 0⟩
  rw [written_breaks] at reached
  rw [written_lexemes, List.foldl_append] at reached ⊢
  simp only [List.foldl_cons, List.foldl_nil, Point.past, if_true] at reached ⊢
  rw [reached]

theorem row_behind (declaration : Declaration) (passed : List Char) (gap : Gap) (row : Nat)
    (here : (passed ++ gap.chars).foldl Point.past Point.start = ⟨row, 0⟩) :
    (passed ++ spell (declaration.lexemes gap) ++ Gap.broken.chars).foldl Point.past Point.start =
      ⟨row + declaration.lines.length, 0⟩ := by
  have text : passed ++ spell (declaration.lexemes gap) ++ Gap.broken.chars =
      passed ++ gap.chars ++ written declaration.lines := by
    rw [List.append_assoc, List.append_assoc, ← spell_declaration]
    rfl
  rw [text, List.foldl_append, here, past_written]

theorem source_breaks (declarations : List Declaration) :
    (source declarations).toList.count '\n' = (lines declarations).length := by
  induction declarations with
  | nil => rfl
  | cons declaration rest ih =>
      rw [source_cons, List.count_append, written_breaks, ih, lines, lines, List.flatMap_cons,
        List.length_append]

theorem source_ended (declarations : List Declaration) :
    ∀ c ∈ (source declarations).toList.getLast?, c = '\n' := by
  induction declarations with
  | nil => simp [source, lines]
  | cons declaration rest ih =>
      rw [source_cons, List.getLast?_append]
      cases behind : (source rest).toList.getLast? with
      | none => simp [written_lexemes]
      | some c => simpa [behind] using ih c behind

theorem line_count_source (declarations : List Declaration) :
    lineCount (source declarations) = (lines declarations).length := by
  have ended : (source declarations).toList.getLast?.all (· == '\n') = true := by
    rw [Option.all_eq_true]
    intro c last
    simpa using source_ended declarations c last
  simp [lineCount, ended, source_breaks]

end SourceAtlas.Plain
