import Mathlib.Data.List.Basic
import SourceAtlas.Text.Line

/-!
What text looks like once it is fit for a line. Text from outside reaches a line through one of
four functions, and each of them leaves no blank but the plain space. Identifiers have no blank at
all and are never empty.
-/

namespace SourceAtlas.Text

/-- The lines of a text. A line feed ends a line, and what stands behind the last one is a line
unless it is empty. -/
def lines : List Char → List (List Char)
  | [] => []
  | c :: rest =>
    if c = '\n' then [] :: lines rest
    else
      match lines rest with
      | [] => [[c]]
      | first :: others => (c :: first) :: others

theorem lines_ended (body rest : List Char) (absent : '\n' ∉ body) :
    lines (body ++ '\n' :: rest) = body :: lines rest := by
  induction body with
  | nil => simp [lines]
  | cons c body ih =>
      have different : c ≠ '\n' := fun same => absent (same ▸ List.mem_cons_self)
      have tail := ih (fun member => absent (List.mem_cons_of_mem c member))
      rw [List.cons_append, lines]
      simp only [different, ↓reduceIte, tail]

/-- Text that can stand on a line: its only blanks are plain spaces. -/
def Inline (chars : List Char) : Prop :=
  ∀ c ∈ chars, isBlank c = true → c = ' '

@[simp] theorem inline_nil : Inline [] := by
  simp [Inline]

@[simp] theorem inline_append (left right : List Char) :
    Inline (left ++ right) ↔ Inline left ∧ Inline right := by
  constructor
  · intro both
    exact ⟨fun c member => both c (List.mem_append_left right member),
      fun c member => both c (List.mem_append_right left member)⟩
  · rintro ⟨first, second⟩ c member
    rcases List.mem_append.mp member with inLeft | inRight
    · exact first c inLeft
    · exact second c inRight

theorem inline_line_feed (chars : List Char) (inline : Inline chars) : '\n' ∉ chars := by
  intro member
  have space := inline '\n' member (by decide)
  exact absurd space (by decide)

theorem words_not_blank (chars : List Char) :
    ∀ word ∈ words chars, ∀ c ∈ word, isBlank c = false := by
  fun_induction words chars with
  | case1 => simp
  | case2 c rest blank ih => exact ih
  | case3 c plain => simpa using plain
  | case4 c plain next tail nextBlank ih =>
      intro word member
      rcases List.mem_cons.mp member with same | later
      · subst same
        simpa using plain
      · exact ih word later
  | case5 c plain next tail nextPlain none ih =>
      rw [none]
      simpa using plain
  | case6 c plain next tail nextPlain first others split ih =>
      rw [split] at ih ⊢
      intro word member
      rcases List.mem_cons.mp member with same | later
      · subst same
        have inFirst := ih first List.mem_cons_self
        intro d inWord
        rcases List.mem_cons.mp inWord with head | rest
        · subst head
          simpa using plain
        · exact inFirst d rest
      · exact ih word (List.mem_cons_of_mem first later)

theorem inline_intercalate (separator : List Char) (parts : List (List Char))
    (between : Inline separator) (inside : ∀ part ∈ parts, Inline part) :
    Inline (separator.intercalate parts) := by
  induction parts with
  | nil => simp
  | cons part rest ih =>
      have first := inside part List.mem_cons_self
      have others := ih (fun later member => inside later (List.mem_cons_of_mem part member))
      cases rest with
      | nil => simpa using first
      | cons next rest =>
          rw [List.intercalate_cons_cons, inline_append, inline_append]
          exact ⟨⟨first, between⟩, others⟩

theorem single_line_inline (text : String) : Inline (singleLine text).toList := by
  rw [singleLine, String.toList_ofList]
  apply inline_intercalate
  · intro c member _
    simpa using member
  · intro word member c inWord blank
    rw [words_not_blank text.toList word member c inWord] at blank
    cases blank

theorem member_text_inline (text : String) : Inline (memberText text).toList :=
  single_line_inline _

instance (chars : List Char) : Decidable (Inline chars) :=
  List.decidableBAll (fun c => isBlank c = true → c = ' ') chars

theorem label_code_inline (c : Char) (plain : Inline [c]) : Inline (labelCode c) := by
  unfold labelCode
  split
  · decide
  · decide
  · exact plain

theorem label_inline (text : String) : Inline (label text).toList := by
  rw [label, String.toList_ofList]
  intro c member
  obtain ⟨source, inLine, inCode⟩ := List.mem_flatMap.mp member
  have plain : Inline [source] := by
    intro d single
    rw [List.mem_singleton.mp single]
    exact single_line_inline text source inLine
  exact label_code_inline source plain c inCode

theorem label_code_unmarked (c : Char) :
    (labelCode c).all (fun d => d != '"' && d != '|') = true := by
  unfold labelCode
  split
  · rfl
  · rfl
  · rename_i quote bar
    simpa using ⟨quote, bar⟩

theorem label_unmarked (text : String) :
    ∀ c ∈ (label text).toList, (c != '"') = true ∧ (c != '|') = true := by
  rw [label, String.toList_ofList]
  intro c member
  obtain ⟨source, _, inCode⟩ := List.mem_flatMap.mp member
  have unmarked := List.all_eq_true.mp (label_code_unmarked source) c inCode
  rwa [Bool.and_eq_true] at unmarked

/-- A nonempty run of letters, digits and `_`. -/
def Word (chars : List Char) : Prop :=
  chars ≠ [] ∧ ∀ c ∈ chars, isIdentifierChar c = true

instance (chars : List Char) : Decidable (Word chars) :=
  have := List.decidableBAll (fun c => isIdentifierChar c = true) chars
  inferInstanceAs (Decidable (_ ∧ _))

theorem identifier_char_not_blank (c : Char) (allowed : isIdentifierChar c = true) :
    isBlank c = false := by
  change (decide (65 ≤ c.val ∧ c.val ≤ 90) || (decide (97 ≤ c.val) && decide (c.val ≤ 122)) ||
    (decide (48 ≤ c.val) && decide (c.val ≤ 57)) || c == '_') = true at allowed
  simp only [Bool.or_eq_true, Bool.and_eq_true, decide_eq_true_eq, beq_iff_eq,
    UInt32.le_iff_toNat_le] at allowed
  change ((((65 ≤ c.toNat ∧ c.toNat ≤ 90) ∨ (97 ≤ c.toNat ∧ c.toNat ≤ 122)) ∨
    (48 ≤ c.toNat ∧ c.toNat ≤ 57)) ∨ c = '_') at allowed
  rcases allowed with ascii | underscore
  · simp only [isBlank, blankRanges, List.any_cons, List.any_nil, Bool.or_false,
      Bool.or_eq_false_iff, Bool.and_eq_false_iff, decide_eq_false_iff_not]
    omega
  · subst underscore
    decide

theorem word_inline (chars : List Char) (word : Word chars) : Inline chars := by
  intro c member blank
  rw [identifier_char_not_blank c (word.2 c member)] at blank
  cases blank

theorem identifier_word (name : String) : Word (identifier name).toList := by
  unfold identifier
  split
  · decide
  · rename_i nonempty
    rw [String.toList_ofList]
    constructor
    · simpa using nonempty
    · intro c member
      obtain ⟨source, _, same⟩ := List.mem_map.mp member
      subst same
      split
      · assumption
      · decide

end SourceAtlas.Text
