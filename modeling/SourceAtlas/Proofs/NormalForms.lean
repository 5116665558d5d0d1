import Mathlib.Data.List.Basic
import SourceAtlas.Proofs.LineText
import SourceAtlas.Proofs.StrippedEnds

/-!
Normal forms of text. Each of the four functions that make text fit for a line changes it once: what
it gives is of a certain form, and text that is of that form already stays as it is. For three of
them the form rests on words with one space between neighbours, from which the words can be read
back.
-/

namespace SourceAtlas.Text

/-! Words, as the runs between blanks. Everything later follows from how they are cut at a blank. -/

/-- What is left when the text is cut at every blank and the empty pieces are dropped. -/
def runs (chars : List Char) : List (List Char) :=
  (chars.splitOnP isBlank).filter fun run => !run.isEmpty

theorem words_runs (chars : List Char) : words chars = runs chars := by
  unfold runs
  fun_induction words chars with
  | case1 => simp
  | case2 c rest blank ih => simp [List.splitOnP_cons_eq_if_modifyHead, blank, ih]
  | case3 c plain => simp [List.splitOnP_cons_eq_if_modifyHead, plain]
  | case4 c plain next tail nextBlank ih =>
      rw [ih, List.splitOnP_cons_eq_if_modifyHead c]
      simp [List.splitOnP_cons_eq_if_modifyHead next, plain, nextBlank]
  | case5 c plain next tail nextPlain none ih =>
      obtain ⟨run, later, cut⟩ := List.exists_cons_of_ne_nil (List.splitOnP_ne_nil isBlank tail)
      rw [none, List.splitOnP_cons_eq_if_modifyHead next] at ih
      simp [nextPlain, cut] at ih
  | case6 c plain next tail nextPlain first others split ih =>
      obtain ⟨run, later, cut⟩ := List.exists_cons_of_ne_nil (List.splitOnP_ne_nil isBlank tail)
      rw [split, List.splitOnP_cons_eq_if_modifyHead next] at ih
      simp only [nextPlain, Bool.false_eq_true, if_false, cut, List.modifyHead_cons] at ih
      obtain ⟨rfl, rfl⟩ : first = next :: run ∧ others = later.filter fun run => !run.isEmpty := by
        simpa using ih
      rw [split]
      simp [List.splitOnP_cons_eq_if_modifyHead, plain, nextPlain, cut]

theorem words_break (front back : List Char) (c : Char) (blank : isBlank c = true) :
    words (front ++ c :: back) = words front ++ words back := by
  rw [words_runs, words_runs, words_runs, runs, List.splitOnP_append_cons front back blank,
    List.filter_append]
  rfl

/-- A run of characters none of which is blank. -/
def Solid (word : List Char) : Prop :=
  word ≠ [] ∧ ∀ c ∈ word, isBlank c = false

theorem words_solid (chars : List Char) : ∀ word ∈ words chars, Solid word := by
  intro word member
  have plain := words_not_blank chars word member
  rw [words_runs] at member
  exact ⟨by simpa using (List.mem_filter.mp member).2, plain⟩

theorem words_single (word : List Char) (solid : Solid word) : words word = [word] := by
  rw [words_runs, runs, List.splitOnP_eq_singleton solid.2]
  simpa using solid.1

theorem words_joined (list : List (List Char)) (solid : ∀ word ∈ list, Solid word) :
    words ([' '].intercalate list) = list := by
  induction list with
  | nil => rfl
  | cons word rest ih =>
      have first := words_single word (solid word List.mem_cons_self)
      have others := ih fun later member => solid later (List.mem_cons_of_mem word member)
      cases rest with
      | nil => simpa using first
      | cons next rest =>
          rw [List.intercalate_cons_cons, List.append_assoc, List.singleton_append,
            words_break word _ ' ' (by decide), first, others, List.singleton_append]

theorem words_flatten (chars : List Char) :
    (words chars).flatten = chars.filter fun c => !isBlank c := by
  fun_induction words chars with
  | case1 => rfl
  | case2 c rest blank ih => simp [blank, ih]
  | case3 c plain => simp [plain]
  | case4 c plain next tail nextBlank ih => simp [plain, ih]
  | case5 c plain next tail nextPlain none ih =>
      rw [none] at ih ⊢
      simp [plain, ← ih]
  | case6 c plain next tail nextPlain first others split ih =>
      rw [split] at ih ⊢
      simp [plain, ← ih]

/-! Spaced text. -/

/-- There is a character here, and it is not blank. -/
def Shown (edge : Option Char) : Prop :=
  ∃ c, edge = some c ∧ isBlank c = false

/-- Every blank is a plain space, with something that is not blank on either side of it. -/
def SingleSpaced (chars : List Char) : Prop :=
  ∀ front c back, chars = front ++ c :: back → isBlank c = true →
    c = ' ' ∧ Shown front.getLast? ∧ Shown back.head?

theorem solid_shown (word : List Char) (solid : Solid word) : Shown word.getLast? :=
  ⟨_, List.getLast?_eq_some_getLast solid.1, solid.2 _ (List.getLast_mem solid.1)⟩

theorem solid_spaced (word : List Char) (solid : Solid word) : SingleSpaced word := by
  rintro front c back rfl blank
  have plain := solid.2 c (by simp)
  rw [plain] at blank
  cases blank

theorem spaced_cons (word rest : List Char) (solid : Solid word) (spaced : SingleSpaced rest)
    (starts : Shown rest.head?) : SingleSpaced (word ++ ' ' :: rest) := by
  intro front c back split blank
  -- The blank lies behind the word, or is the space behind it, or would lie inside it.
  rcases List.append_eq_append_iff.mp split with ⟨between, rfl, later⟩ | ⟨inside, rfl, later⟩
  · rcases List.cons_eq_append_iff.mp later with ⟨rfl, same⟩ | ⟨between, rfl, same⟩
    · obtain ⟨rfl, rfl⟩ := List.cons.inj same
      rw [List.append_nil]
      exact ⟨rfl, solid_shown word solid, starts⟩
    · obtain ⟨space, ⟨d, last, plain⟩, behind⟩ := spaced between c back same blank
      exact ⟨space, ⟨d, by simp [List.getLast?_append, List.getLast?_cons, last], plain⟩, behind⟩
  · rcases List.cons_eq_append_iff.mp later with ⟨rfl, same⟩ | ⟨inside, rfl, same⟩
    · obtain ⟨rfl, rfl⟩ := List.cons.inj same
      rw [List.append_nil] at solid
      exact ⟨rfl, solid_shown front solid, starts⟩
    · have plain := solid.2 c (by simp)
      rw [plain] at blank
      cases blank

theorem joined_first (list : List (List Char)) (solid : ∀ word ∈ list, Solid word)
    (written : list ≠ []) : Shown ([' '].intercalate list).head? := by
  obtain ⟨word, rest, rfl⟩ := List.exists_cons_of_ne_nil written
  obtain ⟨nonempty, plain⟩ := solid word List.mem_cons_self
  obtain ⟨c, tail, rfl⟩ := List.exists_cons_of_ne_nil nonempty
  refine ⟨c, ?_, plain c List.mem_cons_self⟩
  cases rest <;> simp [List.intercalate_cons_cons]

theorem joined_spaced (list : List (List Char)) (solid : ∀ word ∈ list, Solid word) :
    SingleSpaced ([' '].intercalate list) := by
  induction list with
  | nil => simp [SingleSpaced]
  | cons word rest ih =>
      have first := solid word List.mem_cons_self
      have others : ∀ later ∈ rest, Solid later :=
        fun later member => solid later (List.mem_cons_of_mem word member)
      cases rest with
      | nil => simpa using solid_spaced word first
      | cons next rest =>
          rw [List.intercalate_cons_cons, List.append_assoc, List.singleton_append]
          exact spaced_cons word _ first (ih others) (joined_first _ others (by simp))

theorem spaced_behind (front back : List Char) (spaced : SingleSpaced (front ++ ' ' :: back)) :
    SingleSpaced back := by
  intro inner c rest split blank
  obtain ⟨space, ⟨d, last, plain⟩, behind⟩ :=
    spaced (front ++ ' ' :: inner) c rest (by simp [split]) blank
  refine ⟨space, ⟨d, ?_, plain⟩, behind⟩
  cases inner with
  | nil =>
      simp only [List.getLast?_concat, Option.some.injEq] at last
      subst last
      revert plain
      decide
  | cons first inner => simpa [List.getLast?_append, List.getLast?_cons] using last

theorem spaced_first (chars : List Char) (spaced : SingleSpaced chars) (written : chars ≠ []) :
    Shown chars.head? := by
  obtain ⟨c, rest, rfl⟩ := List.exists_cons_of_ne_nil written
  refine ⟨c, rfl, ?_⟩
  by_contra blank
  obtain ⟨_, ⟨d, before, _⟩, _⟩ := spaced [] c rest rfl (by simpa using blank)
  cases before

theorem spaced_append (chars marks : List Char) (spaced : SingleSpaced chars)
    (plain : ∀ c ∈ marks, isBlank c = false) : SingleSpaced (chars ++ marks) := by
  intro front c back split blank
  rcases List.append_eq_append_iff.mp split with ⟨between, rfl, later⟩ | ⟨inside, rfl, later⟩
  · have marked := plain c (by simp [later])
    rw [marked] at blank
    cases blank
  · rcases List.cons_eq_append_iff.mp later with ⟨rfl, same⟩ | ⟨inside, rfl, rfl⟩
    · have marked := plain c (by simp [same])
      rw [marked] at blank
      cases blank
    · obtain ⟨space, before, d, first, shown⟩ := spaced front c inside rfl blank
      exact ⟨space, before, d, by simp [List.head?_append, first], shown⟩

/-- Such text is its words with one space between neighbours. -/
theorem spaced_joined (chars : List Char) (spaced : SingleSpaced chars) :
    [' '].intercalate (words chars) = chars := by
  induction length : chars.length using Nat.strongRecOn generalizing chars with
  | ind count ih =>
      cases found : chars.find? isBlank with
      | none =>
          have plain : ∀ c ∈ chars, isBlank c = false := by simpa using found
          by_cases written : chars = []
          · subst written
            rfl
          · rw [words_single chars ⟨written, plain⟩, List.intercalate_singleton]
      | some c =>
          obtain ⟨blank, front, back, rfl, before⟩ := List.find?_eq_some_iff_append.mp found
          obtain ⟨rfl, ⟨last, ends, _⟩, ⟨first, starts, _⟩⟩ := spaced front c back rfl blank
          have written : front ≠ [] := by
            rintro rfl
            cases ends
          have solid : Solid front := ⟨written, by simpa using before⟩
          have shorter : back.length < count := by
            rw [← length, List.length_append, List.length_cons]
            omega
          have rest := ih back.length shorter back (spaced_behind front back spaced) rfl
          have more : words back ≠ [] := by
            intro none
            rw [none] at rest
            subst rest
            cases starts
          obtain ⟨next, others, cut⟩ := List.exists_cons_of_ne_nil more
          rw [cut] at rest
          rw [words_break front back ' ' blank, words_single front solid, cut,
            List.singleton_append, List.intercalate_cons_cons, rest, List.append_assoc,
            List.singleton_append]

theorem spaced_iff (chars : List Char) :
    SingleSpaced chars ↔ [' '].intercalate (words chars) = chars := by
  constructor
  · exact spaced_joined chars
  · intro same
    rw [← same]
    exact joined_spaced _ (words_solid chars)

/-! One line. -/

theorem single_line_chars (text : String) :
    (singleLine text).toList = [' '].intercalate (words text.toList) := by
  rw [singleLine, String.toList_ofList]

theorem single_line_words (text : String) :
    words (singleLine text).toList = words text.toList := by
  rw [single_line_chars]
  exact words_joined _ (words_solid text.toList)

theorem single_line_spaced (text : String) : SingleSpaced (singleLine text).toList := by
  rw [single_line_chars]
  exact joined_spaced _ (words_solid text.toList)

theorem single_line_iff (text : String) : singleLine text = text ↔ SingleSpaced text.toList := by
  rw [spaced_iff, ← single_line_chars, String.toList_inj]

theorem single_line_same (text other : String) :
    singleLine text = singleLine other ↔ words text.toList = words other.toList := by
  constructor
  · intro same
    rw [← single_line_words text, same, single_line_words other]
  · intro same
    rw [singleLine, singleLine, same]

theorem words_none (chars : List Char) : words chars = [] ↔ chars.all isBlank = true := by
  constructor
  · intro none
    have kept := words_flatten chars
    rw [none, List.flatten_nil, eq_comm, List.filter_eq_nil_iff] at kept
    exact List.all_eq_true.mpr fun c member => by simpa using kept c member
  · intro blank
    rw [List.eq_nil_iff_forall_not_mem]
    intro word member
    obtain ⟨c, rest, filled⟩ := List.exists_cons_of_ne_nil (words_solid chars word member).1
    have seen : c ∈ (words chars).flatten :=
      List.mem_flatten.mpr ⟨word, member, by rw [filled]; exact List.mem_cons_self⟩
    rw [words_flatten, List.mem_filter] at seen
    simp [List.all_eq_true.mp blank c seen.1] at seen

theorem single_line_empty (text : String) :
    singleLine text = "" ↔ text.toList.all isBlank = true := by
  rw [← words_none, ← String.toList_inj, single_line_chars]
  cases found : words text.toList with
  | nil => simp
  | cons first others =>
      have solid := words_solid text.toList first (by rw [found]; exact List.mem_cons_self)
      cases others <;> simp [solid.1]

/-- Blanks around a text are not part of any word. -/
theorem words_padded (before chars after : List Char) (front : ∀ c ∈ before, isBlank c = true)
    (back : ∀ c ∈ after, isBlank c = true) : words (before ++ (chars ++ after)) = words chars := by
  have behind : words (chars ++ after) = words chars := by
    cases after with
    | nil => rw [List.append_nil]
    | cons c rest =>
        have rest_blank : words rest = [] := (words_none rest).mpr
          (List.all_eq_true.mpr fun d member => back d (List.mem_cons_of_mem c member))
        rw [words_break _ _ c (back c List.mem_cons_self), rest_blank, List.append_nil]
  induction before with
  | nil => exact behind
  | cons c rest ih =>
      have split := words_break [] (rest ++ (chars ++ after)) c (front c List.mem_cons_self)
      rw [List.nil_append] at split
      rw [List.cons_append, split, ih fun d member => front d (List.mem_cons_of_mem c member)]
      rfl

theorem words_trim (text : String) : words (trim text).toList = words text.toList := by
  obtain ⟨before, after, whole, front, back⟩ := strip_ends_inside isBlank text.toList
  rw [trim, String.toList_ofList]
  conv_rhs => rw [whole]
  exact (words_padded before _ after front back).symm

theorem single_line_trim (text : String) : singleLine (trim text) = singleLine text :=
  (single_line_same _ _).mpr (words_trim text)

theorem trim_empty (text : String) : trim text = "" ↔ text.toList.all isBlank = true := by
  rw [← words_none, ← words_trim, words_none]
  constructor
  · intro empty
    rw [empty]
    rfl
  · intro blank
    have front := strip_ends_front isBlank text.toList
    rw [trim, String.toList_ofList] at blank
    rw [trim]
    cases left : stripEnds isBlank text.toList with
    | nil => rfl
    | cons c rest =>
        rw [left] at front blank
        simp_all

theorem label_empty (text : String) : label text = "" ↔ text.toList.all isBlank = true := by
  have coded : ∀ c, labelCode c ≠ [] := by
    intro c
    unfold labelCode
    split <;> simp
  rw [← single_line_empty, ← String.toList_inj, ← String.toList_inj, label, String.toList_ofList,
    String.toList_empty, List.flatMap_eq_nil_iff, List.eq_nil_iff_forall_not_mem]
  simp [coded]

/-- A text in some form, or nothing where it has no character to show. -/
def shown? (form : String → String) (text : String) : Option String :=
  if text.toList.all isBlank then none else some (form text)

-- The form may as well be tried first and dropped where nothing comes of it.
theorem shown_filter (form : String → String)
    (empties : ∀ text, form text = "" ↔ text.toList.all isBlank = true) (given : Option String) :
    ((given.map form).filter fun text => !text.isEmpty) = given.bind (shown? form) := by
  cases given with
  | none => rfl
  | some text =>
      by_cases blank : text.toList.all isBlank = true
      · simp [shown?, blank, (empties text).mpr blank]
      · have written : form text ≠ "" := fun empty => blank ((empties text).mp empty)
        simp [shown?, blank, written]

/-- What is put on one line comes from the text, or is a space between two of its words. -/
theorem single_line_origin (text : String) (c : Char) (member : c ∈ (singleLine text).toList) :
    c = ' ' ∨ c ∈ text.toList := by
  by_cases blank : isBlank c = true
  · exact Or.inl (single_line_inline text c member blank)
  · right
    have kept : c ∈ (singleLine text).toList.filter fun d => !isBlank d :=
      List.mem_filter.mpr ⟨member, by simpa using blank⟩
    rw [← words_flatten, single_line_words, words_flatten] at kept
    exact (List.mem_filter.mp kept).1

/-! Text of members. -/

def isMarkup (c : Char) : Bool :=
  isBrace c || isAngle c

theorem member_text_unmarked (text : String) :
    ∀ c ∈ (memberText text).toList, isMarkup c = false := by
  intro c member
  rcases single_line_origin _ c member with rfl | inside
  · decide
  · rw [String.toList_ofList] at inside
    obtain ⟨source, kept, rfl⟩ := List.mem_map.mp inside
    have brace : isBrace source = false := by simpa using (List.mem_filter.mp kept).2
    by_cases angle : isAngle source = true
    · simp only [angle, if_true]
      decide
    · simp [angle, isMarkup, brace]

theorem member_text_plain (text : String) (unmarked : ∀ c ∈ text.toList, isMarkup c = false) :
    memberText text = singleLine text := by
  have kept : text.toList.filter (fun c => !isBrace c) = text.toList := by
    rw [List.filter_eq_self]
    intro c member
    simpa using (Bool.or_eq_false_iff.mp (unmarked c member)).1
  have same : text.toList.map (fun c => if isAngle c then '~' else c) = text.toList := by
    refine (List.map_congr_left ?_).trans (List.map_id _)
    intro c member
    simp [(Bool.or_eq_false_iff.mp (unmarked c member)).2]
  simp only [memberText, kept, same, String.ofList_toList]

theorem member_text_iff (text : String) :
    memberText text = text ↔ SingleSpaced text.toList ∧ ∀ c ∈ text.toList, isMarkup c = false := by
  constructor
  · intro same
    have spaced : SingleSpaced (memberText text).toList := single_line_spaced _
    rw [← same]
    exact ⟨spaced, member_text_unmarked text⟩
  · rintro ⟨spaced, unmarked⟩
    rw [member_text_plain text unmarked]
    exact (single_line_iff text).mpr spaced

/-! Labels. -/

theorem joined_codes (separator : List Char) (code : Char → List Char)
    (list : List (List Char)) :
    (separator.intercalate list).flatMap code =
      (separator.flatMap code).intercalate (list.map fun word => word.flatMap code) := by
  induction list with
  | nil => rfl
  | cons word rest ih =>
      cases rest with
      | nil => simp
      | cons next rest =>
          rw [List.intercalate_cons_cons, List.flatMap_append, List.flatMap_append, ih,
            List.map_cons, List.map_cons, List.map_cons, List.intercalate_cons_cons]

theorem solid_text (chars : List Char) (nonempty : chars ≠ []) (unblank : chars.any isBlank = false) :
    Solid chars :=
  ⟨nonempty, fun c member => Bool.eq_false_iff.mpr (List.any_eq_false.mp unblank c member)⟩

theorem label_code_solid (c : Char) (plain : isBlank c = false) : Solid (labelCode c) := by
  unfold labelCode
  split
  · exact solid_text _ (by decide) (by decide)
  · exact solid_text _ (by decide) (by decide)
  · exact ⟨by simp, by simpa using plain⟩

theorem label_word_solid (word : List Char) (solid : Solid word) :
    Solid (word.flatMap labelCode) := by
  obtain ⟨first, rest, rfl⟩ := List.exists_cons_of_ne_nil solid.1
  constructor
  · have start := label_code_solid first (solid.2 first List.mem_cons_self)
    rw [List.flatMap_cons]
    exact List.append_ne_nil_of_left_ne_nil start.1 _
  · intro c member
    obtain ⟨source, inside, inCode⟩ := List.mem_flatMap.mp member
    exact (label_code_solid source (solid.2 source inside)).2 c inCode

theorem label_spaced (text : String) : SingleSpaced (label text).toList := by
  have space : [' '].flatMap labelCode = [' '] := by decide
  rw [label, String.toList_ofList, single_line_chars, joined_codes, space]
  apply joined_spaced
  rw [List.forall_mem_map]
  exact fun word member => label_word_solid word (words_solid text.toList word member)

theorem label_plain (text : String)
    (unmarked : ∀ c ∈ (singleLine text).toList, (c != '"') = true ∧ (c != '|') = true) :
    label text = singleLine text := by
  have same : ∀ c ∈ (singleLine text).toList, labelCode c = [c] := by
    intro c member
    obtain ⟨quote, bar⟩ := unmarked c member
    unfold labelCode
    split
    · cases quote
    · cases bar
    · rfl
  rw [label, List.flatMap_congr same, List.flatMap_singleton', String.ofList_toList]

theorem label_iff (text : String) :
    label text = text ↔ SingleSpaced text.toList ∧
      ∀ c ∈ text.toList, (c != '"') = true ∧ (c != '|') = true := by
  constructor
  · intro same
    rw [← same]
    exact ⟨label_spaced text, label_unmarked text⟩
  · rintro ⟨spaced, unmarked⟩
    have line := (single_line_iff text).mpr spaced
    rw [label_plain text (line.symm ▸ unmarked), line]

/-! Identifiers. -/

theorem identifier_iff (name : String) : identifier name = name ↔ Word name.toList := by
  constructor
  · intro same
    rw [← same]
    exact identifier_word name
  · rintro ⟨written, allowed⟩
    have same : name.toList.map (fun c => if isIdentifierChar c then c else '_') = name.toList := by
      refine (List.map_congr_left ?_).trans (List.map_id _)
      intro c member
      simp [allowed c member]
    rw [identifier, if_neg (by simpa using written), same, String.ofList_toList]

theorem identifier_length (name : String) (written : name ≠ "") :
    (identifier name).length = name.length := by
  rw [identifier, if_neg (by simpa using written), String.length_ofList, List.length_map,
    String.length_toList]

/-! The four functions together. -/

/-- What the function gives is of this form, and this form is what it leaves as it is. -/
structure Projects (clean : String → String) (Normal : List Char → Prop) : Prop where
  normal : ∀ text, Normal (clean text).toList
  fixed : ∀ text, clean text = text ↔ Normal text.toList
  idempotent : ∀ text, clean (clean text) = clean text

theorem projects_of_fixed (clean : String → String) (Normal : List Char → Prop)
    (normal : ∀ text, Normal (clean text).toList)
    (fixed : ∀ text, clean text = text ↔ Normal text.toList) : Projects clean Normal where
  normal := normal
  fixed := fixed
  idempotent text := (fixed (clean text)).mpr (normal text)

/-- Each of the functions leaves exactly its normal forms as they are. Putting text on one line keeps
its words and forgets all else, and an identifier has a character for each of the name's. -/
theorem text_functions_project :
    Projects singleLine SingleSpaced ∧
    Projects memberText (fun chars => SingleSpaced chars ∧ ∀ c ∈ chars, isMarkup c = false) ∧
    Projects label (fun chars =>
      SingleSpaced chars ∧ ∀ c ∈ chars, (c != '"') = true ∧ (c != '|') = true) ∧
    Projects identifier Word ∧
    (∀ text, runs (singleLine text).toList = runs text.toList) ∧
    (∀ text other, singleLine text = singleLine other ↔ runs text.toList = runs other.toList) ∧
    ∀ name, name ≠ "" → (identifier name).length = name.length := by
  refine ⟨?line, ?member, ?label, ?identifier, ?words, ?same, identifier_length⟩
  case line => exact projects_of_fixed _ _ single_line_spaced single_line_iff
  case member =>
    apply projects_of_fixed _ _ _ member_text_iff
    exact fun text => ⟨single_line_spaced _, member_text_unmarked text⟩
  case label =>
    apply projects_of_fixed _ _ _ label_iff
    exact fun text => ⟨label_spaced text, label_unmarked text⟩
  case identifier => exact projects_of_fixed _ _ identifier_word identifier_iff
  case words =>
    intro text
    rw [← words_runs, ← words_runs, single_line_words]
  case same =>
    intro text other
    rw [← words_runs, ← words_runs, single_line_same]

theorem text_functions_project_sized :
    "Größe" ≠ "" ∧ (identifier "Größe").length = "Größe".length ∧
      identifier (identifier "Größe") = identifier "Größe" ∧
      singleLine (singleLine " a\t\n b ") = singleLine " a\t\n b " := by
  obtain ⟨line, _, _, word, _, _, sized⟩ := text_functions_project
  exact ⟨by decide, sized "Größe" (by decide), word.idempotent "Größe", line.idempotent " a\t\n b "⟩

end SourceAtlas.Text
