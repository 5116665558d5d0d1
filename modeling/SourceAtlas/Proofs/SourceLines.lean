import Mathlib.Data.List.Induction
import SourceAtlas.Position
import SourceAtlas.Text.Blank

/-!
Places and lines. Two countings run over a source text. Places advance by one character at a time,
and lines are cut out of the whole text, where a carriage return in front of a line feed belongs to
the end of its line. The two agree at every character that is not blank: its position names a line
of the text and a byte of that line.
-/

namespace SourceAtlas

/-- The lines of a text without what ends them. What stands behind the last line feed is a line
unless it is empty. -/
def linesOf : List Char → List (List Char)
  | [] => []
  | '\r' :: '\n' :: rest => [] :: linesOf rest
  | '\n' :: rest => [] :: linesOf rest
  | c :: rest =>
    match linesOf rest with
    | [] => [[c]]
    | first :: others => (c :: first) :: others

def sourceLines (source : String) : List String :=
  (linesOf source.toList).map String.ofList

theorem lines_empty (chars : List Char) : linesOf chars = [] ↔ chars = [] := by
  fun_cases linesOf chars <;> simp_all

/-- What a last line adds to the number of line feeds. -/
def unended (chars : List Char) : Nat :=
  if chars.getLast?.all (· == '\n') then 0 else 1

theorem unended_cons (c : Char) (rest : List Char) (behind : rest ≠ []) :
    unended (c :: rest) = unended rest := by
  rw [unended, List.getLast?_cons_of_ne_nil behind, unended]

theorem unended_feed (rest : List Char) : unended ('\n' :: rest) = unended rest := by
  cases rest with
  | nil => rfl
  | cons c rest => exact unended_cons '\n' (c :: rest) (by simp)

theorem lines_length (chars : List Char) :
    (linesOf chars).length = chars.count '\n' + unended chars := by
  fun_induction linesOf chars with
  | case1 => rfl
  | case2 rest ih =>
      rw [unended_cons '\r' ('\n' :: rest) (by simp), unended_feed]
      simp [ih]
      omega
  | case3 rest ih =>
      rw [unended_feed]
      simp [ih]
      omega
  | case4 c rest _ other none ih =>
      have last := (lines_empty rest).mp none
      subst last
      have single : c ≠ '\n' := fun same => other same
      simp [unended, single]
  | case5 c rest _ other first others lines ih =>
      have more : rest ≠ [] := fun none => by simp [none, linesOf] at lines
      have single : c ≠ '\n' := fun same => other same
      rw [unended_cons c rest more, List.count_cons_of_ne single, ← ih, lines]
      rfl

theorem line_count_lines (source : String) : lineCount source = (sourceLines source).length := by
  rw [sourceLines, List.length_map, lines_length]
  rfl

theorem byte_size_cons (c : Char) (line : List Char) :
    (String.ofList (c :: line)).utf8ByteSize = c.utf8Size + (String.ofList line).utf8ByteSize := by
  rw [String.ofList_cons, String.utf8ByteSize_append, String.utf8ByteSize_singleton]

/-! The place behind some characters, counted at once: their line feeds, and the bytes behind the
last of these. -/

def lastLine (passed : List Char) : List Char :=
  (passed.reverse.takeWhile (· != '\n')).reverse

def Point.behind (passed : List Char) : Point :=
  ⟨passed.count '\n', (String.ofList (lastLine passed)).utf8ByteSize⟩

theorem last_line_feed (passed : List Char) : lastLine (passed ++ ['\n']) = [] := by
  simp [lastLine]

theorem last_line_other (passed : List Char) (c : Char) (single : c ≠ '\n') :
    lastLine (passed ++ [c]) = lastLine passed ++ [c] := by
  simp [lastLine, single]

theorem point_behind (passed : List Char) :
    passed.foldl Point.past Point.start = Point.behind passed := by
  induction passed using List.reverseRecOn with
  | nil => rfl
  | append_singleton passed c ih =>
      rw [List.foldl_append, ih, List.foldl_cons, List.foldl_nil, Point.past]
      by_cases feed : c = '\n'
      · subst feed
        simp [Point.behind, last_line_feed]
      · simp [Point.behind, feed, last_line_other passed c feed, String.ofList_append]

/-! Lines and places. -/

/-- The place is on one of these lines, at a byte of it, when the lines start at `start`. Where
they start counts for the column on the first of them only. -/
def Touches (lines : List (List Char)) (start point : Point) : Prop :=
  ∃ index line, lines[index]? = some line ∧ point.row = start.row + index ∧
    point.column < (if index = 0 then start.column else 0) + (String.ofList line).utf8ByteSize

theorem touches_below (line : List Char) (lines : List (List Char)) (start point : Point)
    (touches : Touches lines ⟨start.row + 1, 0⟩ point) :
    Touches (line :: lines) start point := by
  obtain ⟨index, found, member, below, inside⟩ := touches
  refine ⟨index + 1, found, by simpa using member, ?_, by simpa using inside⟩
  rw [below, Nat.add_assoc, Nat.add_comm 1]

theorem touches_behind (c : Char) (first : List Char) (others : List (List Char))
    (start point : Point) (single : c ≠ '\n')
    (touches : Touches (first :: others) (start.past c) point) :
    Touches ((c :: first) :: others) start point := by
  obtain ⟨index, found, member, level, inside⟩ := touches
  simp only [Point.past, single, if_false] at level inside
  cases index with
  | zero =>
      simp only [List.getElem?_cons_zero, Option.some.injEq] at member
      subst member
      refine ⟨0, c :: first, rfl, level, ?_⟩
      rw [byte_size_cons]
      simp only [if_true] at inside ⊢
      omega
  | succ index => exact ⟨index + 1, found, by simpa using member, level, by simpa using inside⟩

theorem touches_here (c : Char) (line : List Char) (lines : List (List Char)) (start : Point) :
    Touches ((c :: line) :: lines) start start := by
  have wide := c.utf8Size_pos
  refine ⟨0, c :: line, rfl, rfl, ?_⟩
  rw [byte_size_cons]
  simp only [if_true]
  omega

/-- Passing characters leads to the line and byte of the next one, unless that is blank. Blanks are
left out because a carriage return may belong to no line. -/
theorem passed_touches (passed rest : List Char) (c : Char) (solid : Text.isBlank c = false)
    (start : Point) :
    Touches (linesOf (passed ++ c :: rest)) start (passed.foldl Point.past start) := by
  have notFeed : c ≠ '\n' := by
    rintro rfl
    exact absurd solid (by decide)
  have notReturn : c ≠ '\r' := by
    rintro rfl
    exact absurd solid (by decide)
  generalize whole : passed ++ c :: rest = text
  fun_induction linesOf text generalizing passed start with
  | case1 => simp at whole
  | case2 ahead ih =>
      match passed with
      | [] => exact absurd (List.cons.inj whole).1 notReturn
      | [_] => exact absurd (List.cons.inj (List.cons.inj whole).2).1 notFeed
      | _ :: _ :: behind =>
          simp only [List.cons_append, List.cons.injEq] at whole
          obtain ⟨rfl, rfl, behindWhole⟩ := whole
          exact touches_below _ _ _ _ (ih behind _ behindWhole)
  | case3 ahead ih =>
      match passed with
      | [] => exact absurd (List.cons.inj whole).1 notFeed
      | _ :: behind =>
          simp only [List.cons_append, List.cons.injEq] at whole
          obtain ⟨rfl, behindWhole⟩ := whole
          exact touches_below _ _ _ _ (ih behind _ behindWhole)
  | case4 d ahead _ other none ih =>
      match passed with
      | [] => exact touches_here d [] [] start
      | _ :: behind =>
          have last := (lines_empty ahead).mp none
          simp [last] at whole
  | case5 d ahead _ other first others lines ih =>
      match passed with
      | [] => exact touches_here d first others start
      | _ :: behind =>
          simp only [List.cons_append, List.cons.injEq] at whole
          obtain ⟨rfl, behindWhole⟩ := whole
          exact touches_behind _ _ _ _ _ other (lines ▸ ih behind _ behindWhole)

/-- The position names a line of the source text and a byte of that line. -/
structure Position.InText (position : Position) (source : String) : Prop where
  line : 1 ≤ position.line ∧ position.line ≤ lineCount source
  column : 1 ≤ position.column ∧ ∃ line, (sourceLines source)[position.line - 1]? = some line ∧
    position.column ≤ line.utf8ByteSize

/-- A character that is not blank stands in the text where its place says. -/
theorem solid_in_text (source : String) (passed rest : List Char) (c : Char)
    (whole : source.toList = passed ++ c :: rest) (solid : Text.isBlank c = false) :
    (Point.behind passed).position.InText source := by
  rw [← point_behind]
  obtain ⟨index, line, found, level, inside⟩ := passed_touches passed rest c solid Point.start
  generalize passed.foldl Point.past Point.start = point at level inside
  have listed : (sourceLines source)[index]? = some (String.ofList line) := by
    rw [sourceLines, List.getElem?_map, whole, found]
    rfl
  have bound := (List.getElem?_eq_some_iff.mp listed).1
  simp only [Point.start, Nat.zero_add, ite_self] at level inside
  refine ⟨⟨Nat.le_add_left 1 _, ?_⟩, Nat.le_add_left 1 _, String.ofList line, ?_, inside⟩
  · rw [Point.position, level, line_count_lines]
    exact bound
  · rw [Point.position, level, Nat.add_sub_cancel, listed]

end SourceAtlas
