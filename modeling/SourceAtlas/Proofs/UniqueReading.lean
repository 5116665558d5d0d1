import Mathlib.Data.List.Basic
import SourceAtlas.Proofs.DrawnLines
import SourceAtlas.Proofs.NormalForms

/-!
How written text is taken apart again. Equal texts were written from equal parts when every part
shows where it ends: a run of one sort of character ends at the first of another sort, a code ends
where no other code goes on, and a section of lines ends at the first line of another section.
-/

open SourceAtlas.Text

namespace SourceAtlas

section Parts

variable {α β γ : Type}

theorem run_unique (inside : α → Bool) (run other rest behind : List α)
    (all : ∀ x ∈ run, inside x = true) (others : ∀ x ∈ other, inside x = true)
    (stops : rest.head?.all fun x => !inside x) (ends : behind.head?.all fun x => !inside x)
    (same : run ++ rest = other ++ behind) : run = other ∧ rest = behind := by
  have runs : run = other := by
    rw [← run_taken inside run rest all stops, same, run_taken inside other behind others ends]
  subst runs
  exact ⟨rfl, List.append_cancel_left same⟩

/-- The lines of one section are told from all lines that follow it. -/
theorem section_unique (inside : α → Bool) (run other rest behind : List α)
    (all : ∀ x ∈ run, inside x = true) (others : ∀ x ∈ other, inside x = true)
    (outside : ∀ x ∈ rest, inside x = false) (beyond : ∀ x ∈ behind, inside x = false)
    (same : run ++ rest = other ++ behind) : run = other ∧ rest = behind := by
  have stops : ∀ later : List α, (∀ x ∈ later, inside x = false) →
      (later.head?.all fun x => !inside x) = true := by
    intro later none
    rw [Option.all_eq_true]
    intro x first
    rw [none x (List.mem_of_mem_head? first)]
    rfl
  exact run_unique inside run other rest behind all others (stops rest outside)
    (stops behind beyond) same

/-- A section that runs to the end is told from all lines before it. -/
theorem last_section_unique (mark : α → Bool) (front other last behind : List α)
    (before : ∀ x ∈ front, mark x = false) (beforeOther : ∀ x ∈ other, mark x = false)
    (marked : ∀ x ∈ last, mark x = true) (markedOther : ∀ x ∈ behind, mark x = true)
    (same : front ++ last = other ++ behind) : front = other ∧ last = behind :=
  section_unique (fun x => !mark x) front other last behind
    (by simpa using before) (by simpa using beforeOther) (by simpa using marked)
    (by simpa using markedOther) same

/-- Codes none of which begins another can be read off the front of a text. -/
theorem code_unique (code : α → List β) (apart : ∀ a b, code a <+: code b → a = b) (a b : α)
    (rest behind : List β) (same : code a ++ rest = code b ++ behind) :
    a = b ∧ rest = behind := by
  have codes : a = b := by
    rcases List.prefix_or_prefix_of_prefix (List.prefix_append (code a) rest)
      (same ▸ List.prefix_append (code b) behind) with first | second
    · exact apart a b first
    · exact (apart b a second).symm
  subst codes
  exact ⟨rfl, List.append_cancel_left same⟩

/-- What can be read off the front of a text, one part after the other, can be read off all of it. -/
theorem parts_unique (write : α → List β) (key : α → γ) (written : ∀ a, write a ≠ [])
    (cut : ∀ a b rest behind, write a ++ rest = write b ++ behind → key a = key b ∧ rest = behind)
    (parts others : List α) (same : parts.flatMap write = others.flatMap write) :
    parts.map key = others.map key := by
  induction parts generalizing others with
  | nil =>
      cases others with
      | nil => rfl
      | cons b others => simp [written b] at same
  | cons a parts ih =>
      cases others with
      | nil => simp [written a] at same
      | cons b others =>
          rw [List.flatMap_cons, List.flatMap_cons] at same
          obtain ⟨first, later⟩ := cut a b _ _ same
          rw [List.map_cons, List.map_cons, first, ih others later]

theorem lines_unique (write : α → β) (key : α → γ)
    (determined : ∀ a b, write a = write b → key a = key b) (parts others : List α)
    (same : parts.map write = others.map write) : parts.map key = others.map key := by
  rw [List.map_eq_flatMap, List.map_eq_flatMap] at same
  apply parts_unique (fun a => [write a]) key (by simp) _ parts others same
  intro a b rest behind equal
  rw [List.singleton_append, List.singleton_append, List.cons.injEq] at equal
  exact ⟨determined a b equal.1, equal.2⟩

theorem optional_unique (write : α → β) (key : α → γ)
    (determined : ∀ a b, write a = write b → key a = key b) (part other : Option α)
    (same : part.toList.map write = other.toList.map write) : part.map key = other.map key := by
  have keys := congrArg List.head? (lines_unique write key determined _ _ same)
  rwa [← Option.toList_map, ← Option.toList_map, Option.head?_toList, Option.head?_toList] at keys

theorem optional_injective (write : α → β) (injective : Function.Injective write)
    (part other : Option α) (same : part.toList.map write = other.toList.map write) :
    part = other := by
  have lists := congrArg List.head? (List.map_injective_iff.mpr injective same)
  rwa [Option.head?_toList, Option.head?_toList] at lists

end Parts

theorem Drawing.bodies_unique (drawing other : Drawing) (lined : drawing.Lined)
    (otherLined : other.Lined) (same : drawing.text = other.text) :
    drawing.lines.map lineBody = other.lines.map lineBody := by
  rw [← drawing.lines_of_text lined, same, other.lines_of_text otherLined]

/-- A title is recognised by the colon behind its first word. -/
def isTitleLine (line : List Char) : Bool :=
  match leadingWord? line with
  | some (_, ':' :: _) => true
  | _ => false

theorem title_line_follower (word rest : List Char) (c : Char) (isWord : Word word)
    (stops : isIdentifierChar c = false) :
    isTitleLine (indent.toList ++ (word ++ c :: rest)) = (c == ':') := by
  rw [isTitleLine, leading_word_cons word rest c isWord stops]
  by_cases colon : c = ':'
  · subst colon
    rfl
  · simp [colon]

theorem titles_are_titles (options : EncodeOptions) :
    ∀ line ∈ (titleLines options).map lineBody, isTitleLine line = true := by
  rw [titleLines, List.map_map, List.forall_mem_map]
  intro title _
  rw [Function.comp_apply, reads_body _ _ (title_reads title)]
  exact title_line_follower _ _ ':' (by decide) (by decide)

/-- The title as it stands in a diagram: one that is wanted and has a character to show. -/
def drawnTitle? (options : EncodeOptions) : Option String :=
  if options.includeTitle then options.title.bind (shown? singleLine) else none

theorem title_spelled (options : EncodeOptions) :
    options.effectiveTitle.map singleLine = drawnTitle? options := by
  rw [EncodeOptions.effectiveTitle, drawnTitle?]
  cases options.includeTitle with
  | false => rfl
  | true =>
      cases options.title with
      | none => rfl
      | some title =>
          by_cases blank : title.toList.all isBlank = true
          · simp [shown?, blank, (trim_empty title).mpr blank]
          · have written : trim title ≠ "" := fun empty => blank ((trim_empty title).mp empty)
            simp [shown?, blank, written, single_line_trim]

theorem titles_drawn (options : EncodeOptions) :
    titleLines options = (drawnTitle? options).toList.map fun title =>
      [indent, "accTitle: ", title, "\n"] := by
  rw [titleLines, ← title_spelled, Option.toList_map, List.map_map]
  rfl

theorem titles_unique (options others : EncodeOptions)
    (same : (titleLines options).map lineBody = (titleLines others).map lineBody) :
    drawnTitle? options = drawnTitle? others := by
  rw [← title_spelled, ← title_spelled]
  rw [titleLines, titleLines, List.map_map, List.map_map] at same
  apply optional_unique _ singleLine _ _ _ same
  intro title other equal
  rw [Function.comp_apply, Function.comp_apply, reads_body _ _ (title_reads title),
    reads_body _ _ (title_reads other)] at equal
  have texts := List.append_cancel_left (List.append_cancel_left equal)
  rw [List.cons.injEq, List.cons.injEq] at texts
  exact String.toList_injective texts.2.2

/-- The ends of an edge and its kind can be read off it, whatever follows the token. -/
theorem edge_body_unique (token : RelationshipKind → String)
    (apart : ∀ kind other, (token kind).toList <+: (token other).toList → kind = other)
    (id other : String) (kind otherKind : RelationshipKind) (tail otherTail : Line)
    (isWord : Word id.toList) (isOtherWord : Word other.toList)
    (same : edgeBody id (token kind) tail = edgeBody other (token otherKind) otherTail) :
    id = other ∧ kind = otherKind ∧
      tail.flatMap String.toList = otherTail.flatMap String.toList := by
  have words := congrArg leadingWord? same
  rw [edgeBody, edgeBody, leading_word_cons _ _ ' ' isWord (by decide),
    leading_word_cons _ _ ' ' isOtherWord (by decide)] at words
  rw [Option.some.injEq, Prod.mk.injEq, List.cons.injEq] at words
  obtain ⟨kinds, tails⟩ :=
    code_unique (fun kind => (token kind).toList) apart kind otherKind _ _ words.2.2
  exact ⟨String.toList_injective words.1, kinds, tails⟩

end SourceAtlas
