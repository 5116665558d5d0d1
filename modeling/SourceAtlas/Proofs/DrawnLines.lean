import Mathlib.Data.List.Basic
import SourceAtlas.Diagram.Encoder
import SourceAtlas.Proofs.LineText
import SourceAtlas.Proofs.SheetWriting

/-!
Lines of a diagram. A line is written in pieces and ends with the last of them, so that the lines
of the finished text are the lines that were drawn. What kind of line one is can be told from its
first word and what follows it, whatever the names and labels in the diagram are.
-/

open SourceAtlas.Text

namespace SourceAtlas

/-- What can be read on a line, which is all of it but the line feed at its end. -/
def lineBody (line : Line) : List Char :=
  (line.flatMap String.toList).dropLast

/-- The line ends where `body` ends, and `body` breaks off nowhere. -/
def Reads (line : Line) (body : List Char) : Prop :=
  line.flatMap String.toList = body ++ ['\n'] ∧ Inline body

theorem reads_body (line : Line) (body : List Char) (reads : Reads line body) :
    lineBody line = body := by
  rw [lineBody, reads.1, List.dropLast_concat]

theorem reads_closed (pieces : Line) (closing : String)
    (inline : ∀ piece ∈ pieces, Inline piece.toList) (closed : Inline closing.toList) :
    Reads (pieces ++ [closing ++ "\n"]) (pieces.flatMap String.toList ++ closing.toList) := by
  constructor
  · simp
  · rw [inline_append]
    refine ⟨?_, closed⟩
    intro c member
    obtain ⟨piece, pieceMember, inPiece⟩ := List.mem_flatMap.mp member
    exact inline piece pieceMember c inPiece

theorem reads_plain (pieces : Line) (inline : ∀ piece ∈ pieces, Inline piece.toList) :
    Reads (pieces ++ ["\n"]) (pieces.flatMap String.toList) := by
  have closed := reads_closed pieces "" inline (by decide)
  simpa using closed

namespace Drawing

/-- Every line of the drawing ends once, at its end. -/
def Lined (drawing : Drawing) : Prop :=
  ∀ line ∈ drawing.lines, ∃ body, Reads line body

theorem text_chars (drawing : Drawing) :
    drawing.text.toList = drawing.lines.flatMap fun line => line.flatMap String.toList := by
  rw [text, pieces, String.toList_join]
  induction drawing.lines with
  | nil => rfl
  | cons line rest ih => rw [List.flatten_cons, List.flatMap_append, List.flatMap_cons, ih]

theorem lines_of_text (drawing : Drawing) (lined : drawing.Lined) :
    Text.lines drawing.text.toList = drawing.lines.map lineBody := by
  rw [text_chars]
  rcases drawing with ⟨lines, nodeCount, edgeCount⟩
  induction lines with
  | nil => rfl
  | cons line rest ih =>
      obtain ⟨body, reads⟩ := lined line List.mem_cons_self
      have tail := ih (fun later member => lined later (List.mem_cons_of_mem line member))
      rw [List.flatMap_cons, reads.1, List.append_assoc, List.singleton_append,
        lines_ended body _ (inline_line_feed body reads.2), tail, List.map_cons,
        reads_body line body reads]

theorem text_blanks (drawing : Drawing) (lined : drawing.Lined) (c : Char)
    (member : c ∈ drawing.text.toList) (blank : isBlank c = true) : c = ' ' ∨ c = '\n' := by
  rw [text_chars] at member
  obtain ⟨line, lineMember, inLine⟩ := List.mem_flatMap.mp member
  obtain ⟨body, reads⟩ := lined line lineMember
  rw [reads.1] at inLine
  rcases List.mem_append.mp inLine with inBody | atEnd
  · exact Or.inl (reads.2 c inBody blank)
  · exact Or.inr (List.mem_singleton.mp atEnd)

theorem text_ended (drawing : Drawing) (lined : drawing.Lined) (drawn : drawing.lines ≠ []) :
    drawing.text.toList.getLast? = some '\n' := by
  obtain ⟨body, reads⟩ := lined (drawing.lines.getLast drawn) (List.getLast_mem drawn)
  rw [text_chars, ← List.dropLast_append_getLast drawn, List.flatMap_append, List.flatMap_singleton,
    reads.1, ← List.append_assoc, List.getLast?_concat]

end Drawing

/-! The first word of an indented line. Nothing but the word itself is read from it, so a line can
be recognised by what stands behind. -/

def leadingWord? (line : List Char) : Option (List Char × List Char) :=
  if indent.toList.isPrefixOf line then
    let rest := line.drop indent.length
    let word := rest.takeWhile isIdentifierChar
    if word.isEmpty then none else some (word, rest.dropWhile isIdentifierChar)
  else none

theorem run_taken {α : Type} (inside : α → Bool) (run rest : List α) (all : ∀ x ∈ run, inside x = true)
    (stops : rest.head?.all fun x => !inside x) : (run ++ rest).takeWhile inside = run := by
  rw [List.takeWhile_append_of_pos all]
  cases rest with
  | nil => simp
  | cons x rest => simp_all

theorem leading_word (word rest : List Char) (isWord : Word word)
    (stops : rest.head?.all fun c => !isIdentifierChar c) :
    leadingWord? (indent.toList ++ (word ++ rest)) = some (word, rest) := by
  have taken := run_taken isIdentifierChar word rest isWord.2 stops
  have dropped : (word ++ rest).dropWhile isIdentifierChar = rest := by
    rw [List.dropWhile_append_of_pos isWord.2]
    cases rest with
    | nil => simp
    | cons c rest => simp_all
  have indented : indent.toList.isPrefixOf (indent.toList ++ (word ++ rest)) = true := by
    simp
  have behind : (indent.toList ++ (word ++ rest)).drop indent.length = word ++ rest := rfl
  have nonempty : word.isEmpty = false := by
    simpa using isWord.1
  simp [leadingWord?, indented, behind, taken, dropped, nonempty]

theorem leading_word_iff (line word rest : List Char) :
    leadingWord? line = some (word, rest) ↔
      line = indent.toList ++ (word ++ rest) ∧ Word word ∧
        rest.head?.all (fun c => !isIdentifierChar c) = true := by
  constructor
  · intro found
    unfold leadingWord? at found
    split at found
    · rename_i indented
      obtain ⟨behind, split⟩ := List.isPrefixOf_iff_prefix.mp indented
      subst split
      have dropped : (indent.toList ++ behind).drop indent.length = behind := rfl
      simp only [dropped] at found
      split at found
      · cases found
      · rename_i nonempty
        cases found
        refine ⟨by rw [List.takeWhile_append_dropWhile], ⟨by simpa using nonempty, ?_⟩, ?_⟩
        · intro c member
          exact List.all_eq_true.mp List.all_takeWhile c member
        · have stops := List.head?_dropWhile_not isIdentifierChar behind
          revert stops
          cases (behind.dropWhile isIdentifierChar).head? <;> simp
    · cases found
  · rintro ⟨split, isWord, stops⟩
    rw [split, leading_word word rest isWord stops]

theorem leading_word_cons (word rest : List Char) (c : Char) (isWord : Word word)
    (stops : isIdentifierChar c = false) :
    leadingWord? (indent.toList ++ (word ++ c :: rest)) = some (word, c :: rest) :=
  leading_word word (c :: rest) isWord (by simp [stops])

theorem leading_word_none (c : Char) (rest : List Char) (stops : isIdentifierChar c = false) :
    leadingWord? (indent.toList ++ c :: rest) = none := by
  cases found : leadingWord? (indent.toList ++ c :: rest) with
  | none => rfl
  | some entry =>
      obtain ⟨split, isWord, _⟩ := (leading_word_iff _ entry.1 entry.2).mp found
      have same := List.append_cancel_left split
      cases word : entry.1 with
      | nil => exact absurd word isWord.1
      | cons first others =>
          rw [word, List.cons_append, List.cons.injEq] at same
          have allowed := isWord.2 first (by rw [word]; exact List.mem_cons_self)
          rw [← same.1, stops] at allowed
          cases allowed

/-- An edge is recognised by the token that follows the name it starts from. -/
def isEdgeLine (token : RelationshipKind → String) (line : List Char) : Bool :=
  match leadingWord? line with
  | some (_, rest) =>
    RelationshipKind.all.any fun kind => (' ' :: (token kind).toList).isPrefixOf rest
  | none => false

theorem edge_line_iff (token : RelationshipKind → String) (line : List Char) :
    isEdgeLine token line = true ↔
      ∃ kind id rest, Word id ∧
        line = indent.toList ++ (id ++ ' ' :: ((token kind).toList ++ rest)) := by
  constructor
  · intro recognised
    unfold isEdgeLine at recognised
    split at recognised
    · rename_i word behind found
      obtain ⟨split, isWord, _⟩ := (leading_word_iff line _ _).mp found
      obtain ⟨kind, _, marked⟩ := List.any_eq_true.mp recognised
      obtain ⟨rest, follows⟩ := List.isPrefixOf_iff_prefix.mp marked
      exact ⟨kind, word, rest, isWord, by rw [split, ← follows, List.cons_append]⟩
    · cases recognised
  · rintro ⟨kind, id, rest, isWord, split⟩
    rw [isEdgeLine, split, leading_word_cons id _ ' ' isWord (by decide)]
    apply List.any_eq_true.mpr
    refine ⟨kind, by cases kind <;> decide, ?_⟩
    simp [List.isPrefixOf_iff_prefix]

/-! Lines that every kind of diagram has: its titles and its edges. -/

theorem title_reads (title : String) :
    Reads [indent, "accTitle: ", singleLine title, "\n"]
      (indent.toList ++ ("accTitle".toList ++ ':' :: ' ' :: (singleLine title).toList)) := by
  have inline : ∀ piece ∈ [indent, "accTitle: ", singleLine title], Inline piece.toList := by
    simpa using ⟨by decide, by decide, single_line_inline title⟩
  have reads := reads_plain _ inline
  simpa using reads

theorem titles_lined (options : EncodeOptions) :
    ∀ line ∈ titleLines options, ∃ body, Reads line body := by
  intro line member
  obtain ⟨title, _, same⟩ := List.mem_map.mp member
  subst same
  exact ⟨_, title_reads title⟩

-- A title may hold the token of an edge. It stands behind a colon, where no edge has its token.
theorem titles_not_edge (token : RelationshipKind → String) (options : EncodeOptions) :
    ∀ line ∈ titleLines options, isEdgeLine token (lineBody line) = false := by
  intro line member
  obtain ⟨title, _, same⟩ := List.mem_map.mp member
  subst same
  rw [reads_body _ _ (title_reads title), isEdgeLine,
    leading_word_cons _ _ ':' (by decide) (by decide)]
  simp [List.isPrefixOf]

theorem titles_length (options : EncodeOptions) :
    (titleLines options).length = if options.effectiveTitle.isSome then 1 else 0 := by
  cases given : options.effectiveTitle <;> simp [titleLines, given]

/-- An edge without the line feed at its end. The tail is all that follows its token. -/
def edgeBody (id token : String) (tail : Line) : List Char :=
  indent.toList ++ (id.toList ++ ' ' :: (token.toList ++ tail.flatMap String.toList))

theorem edge_body_reads (id token : String) (tail : Line) (isWord : Word id.toList)
    (tokenInline : Inline token.toList) (tailInline : ∀ piece ∈ tail, Inline piece.toList) :
    Reads ([indent, id, " ", token] ++ tail ++ ["\n"]) (edgeBody id token tail) := by
  have front : ∀ piece ∈ [indent, id, " ", token], Inline piece.toList := by
    simpa using ⟨by decide, word_inline _ isWord, by decide, tokenInline⟩
  have reads := reads_plain _ (List.forall_mem_append.mpr ⟨front, tailInline⟩)
  simpa [edgeBody] using reads

theorem edge_body_is_edge (token : RelationshipKind → String) (kind : RelationshipKind)
    (id : String) (tail : Line) (isWord : Word id.toList) :
    isEdgeLine token (edgeBody id (token kind) tail) = true :=
  (edge_line_iff token _).mpr ⟨kind, id.toList, _, isWord, rfl⟩

/-- A label is written when there is something left of it on one line. -/
theorem label_written_inline (clean : String → String)
    (inline : ∀ text, Inline (clean text).toList) (label : Option String) (text : String)
    (written : (label.map clean).filter (fun line => !line.isEmpty) = some text) :
    Inline text.toList := by
  obtain ⟨mapped, _⟩ := Option.filter_eq_some_iff.mp written
  obtain ⟨source, _, same⟩ := Option.map_eq_some_iff.mp mapped
  subst same
  exact inline source

/-- A diagram of `count` lines that tells its nodes and edges apart, with the edges at its end. -/
structure Itemized (diagram : EncodedDiagram) (count : Nat) (isNode isEdge : List Char → Bool)
    (edges : List (List Char)) : Prop where
  blanks : ∀ c ∈ diagram.text.toList, isBlank c = true → c = ' ' ∨ c = '\n'
  ended : diagram.text.toList.getLast? = some '\n'
  length : (lines diagram.text.toList).length = count
  nodes : diagram.metadata.nodeCount = (lines diagram.text.toList).countP isNode
  edgeCount : diagram.metadata.edgeCount = (lines diagram.text.toList).countP isEdge
  edgeLines : (lines diagram.text.toList).filter isEdge = edges
  last : (lines diagram.text.toList).drop
    ((lines diagram.text.toList).length - diagram.metadata.edgeCount) = edges

theorem drawing_itemized (encoder : Encoder) (drawing : Drawing) (lined : drawing.Lined)
    (isNode isEdge : List Char → Bool) (front edges : List Line)
    (split : drawing.lines = front ++ edges) (drawn : front ≠ [])
    (nodes : drawing.nodeCount = drawing.lines.countP fun line => isNode (lineBody line))
    (counted : drawing.edgeCount = edges.length)
    (before : ∀ line ∈ front, isEdge (lineBody line) = false)
    (after : ∀ line ∈ edges, isEdge (lineBody line) = true) :
    Itemized { text := drawing.text, metadata := encoder.metadataOf drawing } drawing.lines.length
      isNode isEdge (edges.map lineBody) := by
  have read := drawing.lines_of_text lined
  have filtered : (drawing.lines.map lineBody).filter isEdge = edges.map lineBody := by
    have none : (front.map lineBody).filter isEdge = [] := by
      simpa [List.filter_eq_nil_iff] using before
    have all : (edges.map lineBody).filter isEdge = edges.map lineBody := by
      simpa [List.filter_eq_self] using after
    rw [split, List.map_append, List.filter_append, none, all, List.nil_append]
  have nonempty : drawing.lines ≠ [] := by
    simp [split, drawn]
  constructor
  · exact fun c => drawing.text_blanks lined c
  · exact drawing.text_ended lined nonempty
  · rw [read, List.length_map]
  · rw [read, List.countP_map]
    exact nodes
  · rw [read, List.countP_eq_length_filter, filtered, List.length_map]
    exact counted
  · rw [read, filtered]
  · have start : (drawing.lines.map lineBody).length - drawing.edgeCount =
        (front.map lineBody).length := by
      simp [split, counted]
    rw [read]
    simp only [Encoder.metadataOf, start]
    rw [split, List.map_append, List.drop_left]

theorem plain_not_counted (isNode : List Char → Bool) (lines : List Line)
    (plain : ∀ line ∈ lines, isNode (lineBody line) = false) :
    lines.countP (fun line => isNode (lineBody line)) = 0 := by
  apply List.countP_eq_zero.mpr
  intro line member
  rw [plain line member]
  decide

end SourceAtlas
