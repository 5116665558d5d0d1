import Mathlib.Data.List.Forall2
import SourceAtlas.Proofs.Lexemes

/-!
How parsers run along lexemes.

A place that faces lexemes sees the first of them as its token, and behind that token it faces the
others. With one law for each way in which parsers are put together, a rule of the grammar is
carried out by rewriting. Repetition is the only one with an invariant: the bound on the number of
times is never reached, so what a parser takes once may be split off in front.
-/

namespace SourceAtlas.TypeScript

/-- The place behind what has been passed, with these lexemes ahead. -/
def Place.facing (passed : List Char) (lexemes : List Lexeme) : Place :=
  Place.ofCursor (Cursor.along passed (spell lexemes))

namespace Parser

variable {Result Other : Type}

/-! Parsers that are put together from others. -/

@[simp] theorem bind_run (parser : Parser Result) (next : Result → Parser Other) (place : Place) :
    (parser >>= next) place = (parser place).bind fun reached => next reached.1 reached.2 := rfl

@[simp] theorem pure_run (result : Result) (place : Place) :
    (pure result : Parser Result) place = some (result, place) := rfl

@[simp] theorem failure_run (place : Place) : (failure : Parser Result) place = none := rfl

@[simp] theorem or_else_run (first second : Parser Result) (place : Place) :
    (first <|> second) place = (first place).or (second place) := by
  change (first place <|> second place) = _
  cases first place <;> rfl

@[simp] theorem seq_right_run (first : Parser Result) (second : Parser Other) (place : Place) :
    (first *> second) place = (first place).bind fun reached => second reached.2 := rfl

@[simp] theorem map_run (change : Result → Other) (parser : Parser Result) (place : Place) :
    (change <$> parser) place =
      (parser place).map fun reached => (change reached.1, reached.2) := by
  show (parser place >>= fun reached => pure (change reached.1, reached.2)) = _
  cases parser place <;> rfl

@[simp] theorem ite_run (condition : Prop) [Decidable condition] (yes no : Parser Result)
    (place : Place) :
    (if condition then yes else no) place = if condition then yes place else no place := by
  split <;> rfl

@[simp] theorem optional_run (parser : Parser Result) (place : Place) :
    optional parser place =
      some (((parser place).map fun reached => (some reached.1, reached.2)).getD
        (none, place)) := by
  simp only [optional, or_else_run, map_run, pure_run]
  cases parser place <;> rfl

/-! Repetition. -/

-- Every turn takes a character, so two bounds that both cover what is left are never told apart.
theorem many_within_bound (parser : Parser Result) (count other : Nat) (place : Place)
    (enough : place.before.left ≤ count) (plenty : place.before.left ≤ other) :
    manyWithin parser count place = manyWithin parser other place := by
  induction count generalizing other place with
  | zero =>
      cases other with
      | zero => rfl
      | succ other =>
          rw [manyWithin, manyWithin]
          split
          · rfl
          · rw [if_neg (by omega)]
  | succ count ih =>
      cases other with
      | zero =>
          rw [manyWithin, manyWithin]
          split
          · rfl
          · rw [if_neg (by omega)]
      | succ other =>
          rw [manyWithin, manyWithin]
          split
          · rfl
          · rename_i result next _
            split
            · rw [ih other next (by omega) (by omega)]
            · rfl

theorem many_stops (parser : Parser Result) (place : Place) (refused : parser place = none) :
    many parser place = some ([], place) := by
  rw [many]
  cases place.before.left with
  | zero => rfl
  | succ count => rw [manyWithin, refused]

theorem many_continues (parser : Parser Result) (place next : Place) (result : Result)
    (accepted : parser place = some (result, next))
    (advanced : next.before.left < place.before.left) :
    many parser place = (many parser next).map fun reached => (result :: reached.1, reached.2) := by
  rw [many, many]
  cases bound : place.before.left with
  | zero => omega
  | succ count =>
      have behind := many_within_bound parser count next.before.left next (by omega) (by omega)
      simp only [manyWithin, accepted, bound] at advanced ⊢
      rw [if_pos advanced, behind]
      rfl

/-! Single tokens. -/

@[simp] theorem get_run (place : Place) : (get : Parser Place) place = some (place, place) := rfl

@[simp] theorem peek_run (place : Place) : peek place = some (place.token, place) := rfl

@[simp] theorem peek_second_run (place : Place) :
    peekSecond place = some (Token.read place.token.stop, place) := rfl

@[simp] theorem here_run (place : Place) : here place = some (place.token.start, place) := rfl

@[simp] theorem take_run (place : Place) :
    take place = some (place.token, Place.ofCursor place.token.stop) := rfl

@[simp] theorem text_from_run (start : Cursor) (place : Place) :
    textFrom start place = some (String.ofList (start.upTo place.before), place) := rfl

@[simp] theorem facing_before (passed : List Char) (lexemes : List Lexeme) :
    (Place.facing passed lexemes).before = Cursor.along passed (spell lexemes) := rfl

theorem take_if_run (asked : Token → Bool) (place : Place) :
    takeIf asked place =
      if asked place.token then some (place.token, Place.ofCursor place.token.stop) else none := by
  simp only [takeIf, bind_run, peek_run, Option.bind_some]
  split <;> rfl

section Facing

variable (passed : List Char) (lexemes : List Lexeme)

@[simp] theorem facing_token (lexeme : Lexeme) (trails : Trails lexeme lexemes) :
    (Place.facing passed (lexeme :: lexemes)).token = lexeme.token passed lexemes :=
  read_spelled passed lexeme lexemes trails

@[simp] theorem second_token (first second : Lexeme) (trails : Trails second lexemes) :
    Token.read (first.token passed (second :: lexemes)).stop =
      second.token (passed ++ first.spelled) lexemes :=
  read_spelled (passed ++ first.spelled) second lexemes trails

@[simp] theorem facing_behind (lexeme : Lexeme) :
    Place.ofCursor (lexeme.token passed lexemes).stop =
      Place.facing (passed ++ lexeme.spelled) lexemes := rfl

@[simp] theorem take_if_facing (asked : Token → Bool) (lexeme : Lexeme)
    (trails : Trails lexeme lexemes) :
    takeIf asked (Place.facing passed (lexeme :: lexemes)) =
      if asked (lexeme.token passed lexemes) then
        some (lexeme.token passed lexemes, Place.facing (passed ++ lexeme.spelled) lexemes)
      else none := by
  rw [take_if_run, facing_token passed lexemes lexeme trails]
  rfl

/-! A mark is never a word and a word never a mark, whichever of them is asked for. -/

variable (asked : String) (gap : Gap) (name : Word) (sign : Sign)

@[simp] theorem word_at_word (spaced : Spaced lexemes) :
    word asked (Place.facing passed (.word gap name :: lexemes)) =
      if name.text = asked then
        some ((Lexeme.word gap name).token passed lexemes,
          Place.facing (passed ++ (Lexeme.word gap name).spelled) lexemes)
      else none := by
  simp [word, spaced, Token.isWordOf]

@[simp] theorem word_at_mark (spaced : Spaced lexemes) :
    word asked (Place.facing passed (.mark gap sign :: lexemes)) = none := by
  simp [word, spaced, Token.isWordOf]

@[simp] theorem mark_at_word (spaced : Spaced lexemes) :
    mark asked (Place.facing passed (.word gap name :: lexemes)) = none := by
  simp [mark, spaced, Token.isMarkOf]

@[simp] theorem mark_at_mark (spaced : Spaced lexemes) :
    mark asked (Place.facing passed (.mark gap sign :: lexemes)) =
      if sign.text = asked then
        some ((Lexeme.mark gap sign).token passed lexemes,
          Place.facing (passed ++ (Lexeme.mark gap sign).spelled) lexemes)
      else none := by
  simp [mark, spaced, Token.isMarkOf]

@[simp] theorem mark_at_finish :
    mark asked (Place.facing passed [.finish gap]) = none := by
  simp [mark, Token.isMarkOf]

/-- A mark that no lexeme is written with is found nowhere. -/
@[simp] theorem mark_foreign (lexeme : Lexeme) (trails : Trails lexeme lexemes)
    (foreign : [Sign.opening, .closing, .colon, .semicolon, .comma].all
      (fun sign => sign.text != asked) = true) :
    mark asked (Place.facing passed (lexeme :: lexemes)) = none := by
  cases lexeme with
  | word gap name => rw [mark_at_word _ _ _ _ _ ((trails_word _ _ _).mp trails)]
  | mark gap sign =>
      have other : sign.text ≠ asked := by
        cases sign <;> simp_all
      rw [mark_at_mark _ _ _ _ _ ((trails_mark _ _ _).mp trails), if_neg other]
  | finish gap =>
      rw [(trails_finish _ _).mp trails, mark_at_finish]

end Facing

/-! Runs of lexemes. -/

/-- The parser takes these lexemes in front of the rest, and gives the result. -/
def Takes (parser : Parser Result) (passed : List Char) (lexemes rest : List Lexeme)
    (result : Result) : Prop :=
  parser (Place.facing passed (lexemes ++ rest)) =
    some (result, Place.facing (passed ++ spell lexemes) rest)

theorem many_takes_none (parser : Parser Result) (passed : List Char) (rest : List Lexeme)
    (refused : parser (Place.facing passed rest) = none) :
    Takes (many parser) passed [] rest [] := by
  rw [Takes, spell_nil, List.append_nil]
  exact many_stops parser _ refused

theorem facing_shorter (passed : List Char) (first rest : List Lexeme) (solid : spell first ≠ []) :
    (Place.facing (passed ++ spell first) rest).before.left <
      (Place.facing passed (first ++ rest)).before.left := by
  have length := List.length_pos_iff.mpr solid
  simp only [facing_before, Cursor.along_left, spell_append, List.length_append]
  omega

theorem many_takes_cons (parser : Parser Result) (passed : List Char)
    (first others rest : List Lexeme) (result : Result) (results : List Result)
    (solid : spell first ≠ []) (taken : Takes parser passed first (others ++ rest) result)
    (behind : Takes (many parser) (passed ++ spell first) others rest results) :
    Takes (many parser) passed (first ++ others) rest (result :: results) := by
  have shorter := facing_shorter passed first (others ++ rest) solid
  rw [Takes] at taken behind ⊢
  rw [List.append_assoc, many_continues parser _ _ result taken shorter, behind, spell_append,
    List.append_assoc]
  rfl

/-- A parser for one item takes a row of them, as long as every item may stand behind another. -/
theorem many_takes {Item : Type} (parser : Parser Result) (write : Item → List Lexeme)
    (Gives : Item → Result → Prop) (Behind : List Lexeme → Prop)
    (solid : ∀ item, spell (write item) ≠ [])
    (each : ∀ passed item rest, Behind rest →
      ∃ result, Takes parser passed (write item) rest result ∧ Gives item result)
    (next : ∀ item rest, Behind rest → Behind (write item ++ rest))
    (passed : List Char) (items : List Item) (rest : List Lexeme) (ends : Behind rest)
    (stops : ∀ passed, parser (Place.facing passed rest) = none) :
    ∃ results, Takes (many parser) passed (items.flatMap write) rest results ∧
      List.Forall₂ Gives items results := by
  have row : ∀ items : List Item, Behind (items.flatMap write ++ rest) := by
    intro items
    induction items with
    | nil => exact ends
    | cons item others ih =>
        rw [List.flatMap_cons, List.append_assoc]
        exact next item _ ih
  induction items generalizing passed with
  | nil => exact ⟨[], many_takes_none parser passed rest (stops passed), .nil⟩
  | cons item others ih =>
      obtain ⟨result, taken, gives⟩ := each passed item _ (row others)
      obtain ⟨results, behind, given⟩ := ih (passed ++ spell (write item))
      refine ⟨result :: results, ?_, .cons gives given⟩
      rw [List.flatMap_cons]
      exact many_takes_cons parser passed _ _ rest result results (solid item) taken behind

end Parser

end SourceAtlas.TypeScript
