import Mathlib.Data.List.Basic
import SourceAtlas.TypeScript.Parser

/-!
Source texts that are put together from lexemes.

A lexeme is what one token is written with: its own characters, and the blanks in front of it. The
blanks go in front because a token is read from the end of the one before it. Wherever words stand
apart from one another, reading a text that was spelled from lexemes gives these lexemes back, so a
parser may be followed along the lexemes and never looks at characters.
-/

namespace SourceAtlas.TypeScript

namespace Cursor

/-- The cursor between what has been passed and what is ahead. -/
def along (passed ahead : List Char) : Cursor :=
  { rest := ahead, left := ahead.length, point := passed.foldl Point.past Point.start }

@[simp] theorem along_rest (passed ahead : List Char) : (along passed ahead).rest = ahead := rfl

@[simp] theorem along_left (passed ahead : List Char) :
    (along passed ahead).left = ahead.length := rfl

theorem forward_along (passed step ahead : List Char) :
    (along passed (step ++ ahead)).forward step.length = along (passed ++ step) ahead := by
  induction step generalizing passed with
  | nil => simp [forward]
  | cons c step ih =>
      have moved : (along passed (c :: step ++ ahead)).next =
          along (passed ++ [c]) (step ++ ahead) := by
        simp [along, next]
      rw [List.length_cons, forward, moved, ih, List.append_assoc]
      rfl

theorem up_to_along (passed step ahead : List Char) :
    (along passed (step ++ ahead)).upTo (along (passed ++ step) ahead) = step := by
  simp [upTo, along]

end Cursor

/-! The parts of a lexeme. -/

/-- The blanks in front of a token. -/
inductive Gap where
  | joined
  | spaced
  | broken
  | indented
  deriving DecidableEq

def Gap.chars : Gap → List Char
  | .joined => []
  | .spaced => [' ']
  | .broken => ['\n']
  | .indented => ['\n', ' ', ' ']

inductive Sign where
  | opening
  | closing
  | colon
  | semicolon
  | comma
  deriving DecidableEq

def Sign.text : Sign → String
  | .opening => "\x7b"
  | .closing => "\x7d"
  | .colon => ":"
  | .semicolon => ";"
  | .comma => ","

structure Word where
  text : String
  starts : text.toList.head?.any Token.isWordStart = true
  consists : text.toList.all Token.isWordPart = true

inductive Lexeme where
  | word (gap : Gap) (name : Word)
  | mark (gap : Gap) (sign : Sign)
  | finish (gap : Gap)

namespace Lexeme

@[simp] def gap : Lexeme → Gap
  | word gap _ => gap
  | mark gap _ => gap
  | finish gap => gap

@[simp] def sort : Lexeme → TokenSort
  | word _ _ => .word
  | mark _ _ => .mark
  | finish _ => .finish

@[simp] def text : Lexeme → String
  | word _ name => name.text
  | mark _ sign => sign.text
  | finish _ => ""

def spelled (lexeme : Lexeme) : List Char :=
  lexeme.gap.chars ++ lexeme.text.toList

end Lexeme

def spell (lexemes : List Lexeme) : List Char :=
  lexemes.flatMap Lexeme.spelled

@[simp] theorem spell_nil : spell [] = [] := rfl

@[simp] theorem spell_cons (lexeme : Lexeme) (lexemes : List Lexeme) :
    spell (lexeme :: lexemes) = lexeme.spelled ++ spell lexemes := rfl

@[simp] theorem spell_append (left right : List Lexeme) :
    spell (left ++ right) = spell left ++ spell right :=
  List.flatMap_append

/-- Lexemes that can stand behind a word: none of the words among them is swallowed by what is in
front of it. -/
def Spaced : List Lexeme → Prop
  | [] => True
  | .word gap _ :: rest => gap ≠ .joined ∧ Spaced rest
  | .mark _ _ :: rest => Spaced rest
  | .finish _ :: rest => rest = []

/-- What can stand behind a lexeme. -/
def Trails : Lexeme → List Lexeme → Prop
  | .word _ _, rest => Spaced rest
  | .mark _ _, rest => Spaced rest
  | .finish _, rest => rest = []

section Spacing

variable (gap : Gap) (name : Word) (sign : Sign) (rest : List Lexeme)

-- Stated as equivalences and not by unfolding, so that rewriting can use them for side conditions.
@[simp] theorem spaced_word : Spaced (.word gap name :: rest) ↔ gap ≠ .joined ∧ Spaced rest := by
  rw [Spaced]

@[simp] theorem spaced_mark : Spaced (.mark gap sign :: rest) ↔ Spaced rest := by
  rw [Spaced]

@[simp] theorem spaced_finish : Spaced (.finish gap :: rest) ↔ rest = [] := by
  rw [Spaced]

@[simp] theorem trails_word : Trails (.word gap name) rest ↔ Spaced rest := by
  rw [Trails]

@[simp] theorem trails_mark : Trails (.mark gap sign) rest ↔ Spaced rest := by
  rw [Trails]

@[simp] theorem trails_finish : Trails (.finish gap) rest ↔ rest = [] := by
  rw [Trails]

end Spacing

theorem trails_of_spaced (lexeme : Lexeme) (rest : List Lexeme) (spaced : Spaced (lexeme :: rest)) :
    Trails lexeme rest := by
  cases lexeme with
  | word gap name => exact spaced.2
  | mark gap sign => exact spaced
  | finish gap => exact spaced

/-! What the scanner makes of a spelled text. -/

theorem trivia_stops (count : Nat) (ahead : List Char)
    (solid : ∀ c ∈ ahead.head?, isSpace c = false ∧ c ≠ '/') :
    triviaLength .blanks count ahead = count := by
  cases ahead with
  | nil => rfl
  | cons c rest =>
      obtain ⟨dark, noSlash⟩ := solid c rfl
      unfold triviaLength
      split <;> simp_all

theorem trivia_gap (gap : Gap) (ahead : List Char)
    (solid : ∀ c ∈ ahead.head?, isSpace c = false ∧ c ≠ '/') :
    triviaLength .blanks 0 (gap.chars ++ ahead) = gap.chars.length := by
  cases gap with
  | joined => exact trivia_stops 0 ahead solid
  | spaced => exact trivia_stops 1 ahead solid
  | broken => exact trivia_stops 1 ahead solid
  | indented => exact trivia_stops 3 ahead solid

theorem word_length_run (count : Nat) (run ahead : List Char)
    (parts : ∀ c ∈ run, Token.isWordPart c = true)
    (ends : ∀ c ∈ ahead.head?, Token.isWordPart c = false ∧ c ≠ '\\') :
    Token.wordLength count 0 (run ++ ahead) = count + run.length := by
  induction run generalizing count with
  | nil =>
      cases ahead with
      | nil => rfl
      | cons c rest =>
          obtain ⟨foreign, noEscape⟩ := ends c rfl
          have plain : Token.escapeLength (c :: rest) = 0 := by
            unfold Token.escapeLength
            split <;> simp_all
          simp [Token.wordLength, foreign, plain]
  | cons c run ih =>
      have inside := ih (count + 1) fun later member => parts later (List.mem_cons_of_mem c member)
      rw [List.cons_append, Token.wordLength, if_pos (parts c List.mem_cons_self), inside,
        List.length_cons]
      omega

theorem Word.exists_cons (word : Word) :
    ∃ c run, word.text.toList = c :: run ∧ Token.isWordStart c = true ∧
      ∀ part ∈ run, Token.isWordPart part = true := by
  have starts := word.starts
  have consists := word.consists
  cases spelled : word.text.toList with
  | nil => simp [spelled] at starts
  | cons c run =>
      rw [spelled] at starts consists
      exact ⟨c, run, rfl, by simpa using starts, fun part member =>
        List.all_eq_true.mp consists part (List.mem_cons_of_mem c member)⟩

theorem space_foreign (c : Char) (starts : Token.isWordStart c = true) :
    isSpace c = false ∧ c ≠ '/' := by
  have part : Token.isWordPart c = true := by
    simp only [Token.isWordStart, Bool.and_eq_true] at starts
    exact starts.1
  constructor
  · simp only [Token.isWordPart, Bool.and_eq_true, Bool.not_eq_true'] at part
    exact part.1.2
  · rintro rfl
    exact absurd part (by decide)

theorem spell_ends (lexemes : List Lexeme) (spaced : Spaced lexemes) :
    ∀ c ∈ (spell lexemes).head?, Token.isWordPart c = false ∧ c ≠ '\\' := by
  cases lexemes with
  | nil => simp
  | cons lexeme rest =>
      cases lexeme with
      | word gap name =>
          cases gap <;> simp [Lexeme.spelled, Lexeme.gap, Gap.chars] at spaced ⊢ <;> decide
      | mark gap sign =>
          cases gap <;> cases sign <;>
            simp [Lexeme.spelled, Lexeme.gap, Gap.chars, Lexeme.text, Sign.text] <;> decide
      | finish gap =>
          rw [Spaced] at spaced
          cases gap <;> simp [spaced, Lexeme.spelled, Lexeme.gap, Gap.chars, Lexeme.text] <;> decide

theorem scan_lexeme (lexeme : Lexeme) (lexemes : List Lexeme) (trails : Trails lexeme lexemes) :
    Token.scan (lexeme.text.toList ++ spell lexemes) =
      (lexeme.sort, lexeme.text.toList.length) := by
  cases lexeme with
  | word gap name =>
      obtain ⟨c, run, spelled, starts, parts⟩ := name.exists_cons
      have length := word_length_run 1 run (spell lexemes) parts (spell_ends lexemes trails)
      simp only [Lexeme.text, Lexeme.sort, spelled, List.cons_append, Token.scan, starts, if_true,
        length, List.length_cons, Nat.add_comm]
  | mark gap sign => cases sign <;> simp [Lexeme.text, Sign.text, Lexeme.sort] <;> rfl
  | finish gap =>
      rw [Trails] at trails
      subst trails
      rfl

theorem lexeme_solid (lexeme : Lexeme) (lexemes : List Lexeme) (trails : Trails lexeme lexemes) :
    ∀ c ∈ (lexeme.text.toList ++ spell lexemes).head?, isSpace c = false ∧ c ≠ '/' := by
  cases lexeme with
  | word gap name =>
      obtain ⟨c, run, spelled, starts, _⟩ := name.exists_cons
      simpa [Lexeme.text, spelled] using space_foreign c starts
  | mark gap sign => cases sign <;> simp [Lexeme.text, Sign.text] <;> decide
  | finish gap =>
      rw [Trails] at trails
      simp [trails, Lexeme.text]

/-- The token a lexeme stands for, between what was passed and what follows. -/
def Lexeme.token (passed : List Char) (lexeme : Lexeme) (lexemes : List Lexeme) : Token :=
  { sort := lexeme.sort
    text := lexeme.text
    start := Cursor.along (passed ++ lexeme.gap.chars) (lexeme.text.toList ++ spell lexemes)
    stop := Cursor.along (passed ++ lexeme.spelled) (spell lexemes)
    onNewLine := lexeme.gap.chars.any endsLine }

section Token

variable (passed : List Char) (lexeme : Lexeme) (lexemes : List Lexeme)

@[simp] theorem token_sort : (lexeme.token passed lexemes).sort = lexeme.sort := rfl

@[simp] theorem token_text : (lexeme.token passed lexemes).text = lexeme.text := rfl

@[simp] theorem token_on_new_line :
    (lexeme.token passed lexemes).onNewLine = lexeme.gap.chars.any endsLine := rfl

end Token

/-- Reading gives back what was spelled. -/
theorem read_spelled (passed : List Char) (lexeme : Lexeme) (lexemes : List Lexeme)
    (trails : Trails lexeme lexemes) :
    Token.read (Cursor.along passed (spell (lexeme :: lexemes))) =
      lexeme.token passed lexemes := by
  have gap := trivia_gap lexeme.gap (lexeme.text.toList ++ spell lexemes)
    (lexeme_solid lexeme lexemes trails)
  have start := Cursor.forward_along passed lexeme.gap.chars (lexeme.text.toList ++ spell lexemes)
  have stop := Cursor.forward_along (passed ++ lexeme.gap.chars) lexeme.text.toList (spell lexemes)
  have scan := scan_lexeme lexeme lexemes trails
  have split : spell (lexeme :: lexemes) =
      lexeme.gap.chars ++ (lexeme.text.toList ++ spell lexemes) := by
    rw [spell_cons, Lexeme.spelled, List.append_assoc]
  rw [split]
  simp only [Token.read, Cursor.along_rest, gap, start, scan, stop, Lexeme.token, Lexeme.spelled,
    List.take_left, String.ofList_toList, List.append_assoc]

/-! Only gaps hold line feeds, so the lines of a text are counted along its lexemes. -/

def Lexeme.breaks (lexeme : Lexeme) : Bool :=
  lexeme.gap.chars.contains '\n'

theorem text_unbroken (lexeme : Lexeme) : '\n' ∉ lexeme.text.toList := by
  cases lexeme with
  | word gap name =>
      intro member
      exact absurd (List.all_eq_true.mp name.consists '\n' member) (by decide)
  | mark gap sign => cases sign <;> simp [Sign.text]
  | finish gap => simp

theorem spelled_breaks (lexeme : Lexeme) :
    lexeme.spelled.count '\n' = if lexeme.breaks then 1 else 0 := by
  have gap : lexeme.gap.chars.count '\n' = if lexeme.breaks then 1 else 0 := by
    rw [Lexeme.breaks]
    cases lexeme.gap <;> rfl
  rw [Lexeme.spelled, List.count_append, gap, List.count_eq_zero.mpr (text_unbroken lexeme),
    Nat.add_zero]

theorem spell_breaks (lexemes : List Lexeme) :
    (spell lexemes).count '\n' = lexemes.countP Lexeme.breaks := by
  induction lexemes with
  | nil => rfl
  | cons lexeme rest ih =>
      rw [spell_cons, List.count_append, ih, spelled_breaks, List.countP_cons, Nat.add_comm]

end SourceAtlas.TypeScript
