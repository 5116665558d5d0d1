import SourceAtlas.Proofs.ParserLaws
import SourceAtlas.Proofs.RawTrees
import SourceAtlas.Proofs.SourceLines

/-!
Where the nodes of a parsed text stand.

A parser only ever moves along the text, so the place behind it lies in the text when the place in
front of it does. A declaration or an import is anchored when it starts at a character of the text
that is not blank, and a parser anchors what it gives when this holds of every node in
it. There is one law for each way of putting parsers together.
-/

namespace SourceAtlas.TypeScript

variable {source : String}

/-! Cursors and places of one text. -/

def Cursor.Within (source : String) (cursor : Cursor) : Prop :=
  ∃ passed ahead, source.toList = passed ++ ahead ∧ cursor = Cursor.along passed ahead

def Place.Within (source : String) (place : Place) : Prop :=
  ∃ cursor, cursor.Within source ∧ place = Place.ofCursor cursor

theorem start_within (source : String) : (Cursor.ofText source).Within source :=
  ⟨[], source.toList, rfl, rfl⟩

theorem next_within (cursor : Cursor) (within : cursor.Within source) :
    cursor.next.Within source := by
  obtain ⟨passed, ahead, whole, rfl⟩ := within
  cases ahead with
  | nil => exact ⟨passed, [], whole, rfl⟩
  | cons c ahead =>
      refine ⟨passed ++ [c], ahead, by rw [whole, List.append_assoc]; rfl, ?_⟩
      simp [Cursor.along, Cursor.next]

theorem forward_within (count : Nat) (cursor : Cursor) (within : cursor.Within source) :
    (cursor.forward count).Within source := by
  induction count generalizing cursor with
  | zero => exact within
  | succ count ih => exact ih cursor.next (next_within cursor within)

theorem forward_rest (count : Nat) (cursor : Cursor) :
    (cursor.forward count).rest = cursor.rest.drop count := by
  induction count generalizing cursor with
  | zero => rfl
  | succ count ih =>
      rw [Cursor.forward, ih, Cursor.next]
      cases rest : cursor.rest with
      | nil => simp [rest]
      | cons c ahead => simp

theorem start_of_read_within (cursor : Cursor) (within : cursor.Within source) :
    (Token.read cursor).start.Within source :=
  forward_within _ cursor within

theorem stop_of_read_within (cursor : Cursor) (within : cursor.Within source) :
    (Token.read cursor).stop.Within source :=
  forward_within _ _ (start_of_read_within cursor within)

theorem place_within (cursor : Cursor) (within : cursor.Within source) :
    (Place.ofCursor cursor).Within source :=
  ⟨cursor, within, rfl⟩

theorem token_start_within (place : Place) (within : place.Within source) :
    place.token.start.Within source := by
  obtain ⟨cursor, inside, rfl⟩ := within
  exact start_of_read_within cursor inside

theorem behind_token_within (place : Place) (within : place.Within source) :
    (Place.ofCursor place.token.stop).Within source := by
  obtain ⟨cursor, inside, rfl⟩ := within
  exact place_within _ (stop_of_read_within cursor inside)

theorem before_within (place : Place) (within : place.Within source) :
    place.before.Within source := by
  obtain ⟨cursor, inside, rfl⟩ := within
  exact inside

/-! Anchors. Only blanks and comments are passed over in front of a token. -/

/-- The place is that of a character of the text, and the character is not blank. -/
def Anchor (source : String) (point : Point) : Prop :=
  ∃ passed c rest, source.toList = passed ++ c :: rest ∧ Text.isBlank c = false ∧
    point = Point.behind passed

/-- Counted from `count` on, the characters up to `total` are followed by none that is passed
over. -/
def EndsSolid (chars : List Char) (count total : Nat) : Prop :=
  ∃ length, total = count + length ∧ ∀ c ∈ (chars.drop length).head?, isSpace c = false

theorem ends_solid_behind (front chars : List Char) (count total : Nat)
    (ends : EndsSolid chars (count + front.length) total) :
    EndsSolid (front ++ chars) count total := by
  obtain ⟨length, same, solid⟩ := ends
  exact ⟨front.length + length, by omega, by simpa using solid⟩

theorem trivia_ends_solid (mode : TriviaMode) (count : Nat) (chars : List Char) :
    EndsSolid chars count (triviaLength mode count chars) := by
  fun_induction triviaLength mode count chars with
  | case1 count rest ih => exact ends_solid_behind ['/', '/'] rest count _ ih
  | case2 count rest ih => exact ends_solid_behind ['/', '*'] rest count _ ih
  | case3 count rest ih => exact ends_solid_behind ['*', '/'] rest count _ ih
  | case4 count c rest _ _ _ ih => exact ends_solid_behind [c] rest count _ ih
  | case5 count c rest _ _ dark => exact ⟨0, rfl, by simpa using dark⟩
  | case6 count c rest ih => exact ends_solid_behind [c] rest count _ ih
  | case7 count c rest _ ih => exact ends_solid_behind [c] rest count _ ih
  | case8 mode count => exact ⟨0, rfl, by simp⟩

theorem read_solid (cursor : Cursor) (more : (Token.read cursor).sort ≠ .finish) :
    ∃ c rest, (Token.read cursor).start.rest = c :: rest ∧ Text.isBlank c = false := by
  obtain ⟨length, total, solid⟩ := trivia_ends_solid .blanks 0 cursor.rest
  have front : (Token.read cursor).start.rest = cursor.rest.drop length := by
    rw [← Nat.zero_add length, ← total]
    exact forward_rest _ cursor
  cases ahead : cursor.rest.drop length with
  | nil =>
      rw [ahead] at front
      have ended : (Token.read cursor).sort = .finish := by
        show (Token.scan (Token.read cursor).start.rest).1 = .finish
        rw [front]
        rfl
      exact absurd ended more
  | cons c rest =>
      have dark := solid c (by rw [ahead]; rfl)
      simp only [isSpace, Bool.or_eq_false_iff] at dark
      exact ⟨c, rest, front.trans ahead, dark.1.1.1⟩

theorem token_anchored (place : Place) (within : place.Within source)
    (more : place.token.sort ≠ .finish) : Anchor source place.token.start.point := by
  obtain ⟨passed, ahead, whole, along⟩ := token_start_within place within
  obtain ⟨cursor, _, rfl⟩ := within
  obtain ⟨c, rest, front, solid⟩ := read_solid cursor more
  have seen : ahead = c :: rest := by
    have same := congrArg Cursor.rest along
    exact same.symm.trans front
  refine ⟨passed, c, rest, seen ▸ whole, solid, ?_⟩
  exact (congrArg Cursor.point along).trans (point_behind passed)

/-! What a parser gives. -/

/-- What can be asked for the nodes in it. -/
class Bears (Result : Type) where
  nodes : Result → List RawNode

export Bears (nodes)

instance : Bears RawNode := ⟨fun node => [node]⟩

instance : Bears Token := ⟨fun _ => []⟩

instance : Bears Cursor := ⟨fun _ => []⟩

instance : Bears Place := ⟨fun _ => []⟩

instance : Bears String := ⟨fun _ => []⟩

instance : Bears Bool := ⟨fun _ => []⟩

instance : Bears Unit := ⟨fun _ => []⟩

variable {Result Other : Type} [Bears Result] [Bears Other]

instance : Bears (List Result) := ⟨fun results => results.flatMap nodes⟩

instance : Bears (Option Result) := ⟨fun result => result.toList.flatMap nodes⟩

instance : Bears (Result × Other) := ⟨fun pair => nodes pair.1 ++ nodes pair.2⟩

def Anchored (source : String) (result : Result) : Prop :=
  ∀ node ∈ nodes result,
    node.Everywhere fun inside => positioned inside.kind = true → Anchor source inside.start

section Anchored

@[simp] theorem anchored_token (token : Token) : Anchored source token := by
  simp [Anchored, nodes]

@[simp] theorem anchored_bool (answer : Bool) : Anchored source answer := by
  simp [Anchored, nodes]

@[simp] theorem anchored_unit (nothing : Unit) : Anchored source nothing := by
  simp [Anchored, nodes]

@[simp] theorem anchored_nil : Anchored source ([] : List Result) ↔ True := by
  simp [Anchored, nodes]

@[simp] theorem anchored_cons (result : Result) (results : List Result) :
    Anchored source (result :: results) ↔ Anchored source result ∧ Anchored source results := by
  simp [Anchored, nodes, or_imp, forall_and]

@[simp] theorem anchored_append (left right : List Result) :
    Anchored source (left ++ right) ↔ Anchored source left ∧ Anchored source right := by
  simp [Anchored, nodes, or_imp, forall_and]

@[simp] theorem anchored_flatten (rows : List (List Result)) :
    Anchored source rows.flatten ↔ Anchored source rows := by
  induction rows with
  | nil => simp [anchored_nil]
  | cons row rows ih => rw [List.flatten_cons, anchored_append, anchored_cons, ih]

@[simp] theorem anchored_none : Anchored source (none : Option Result) ↔ True := by
  simp [Anchored, nodes]

@[simp] theorem anchored_some (result : Result) :
    Anchored source (some result) ↔ Anchored source result := by
  simp [Anchored, nodes]

@[simp] theorem anchored_to_list (result : Option Result) :
    Anchored source result.toList ↔ Anchored source result := by
  simp [Anchored, nodes]

@[simp] theorem anchored_get_or_none (results : Option (List Result)) :
    Anchored source (results.getD []) ↔ Anchored source results := by
  cases results <;> simp [Anchored, nodes]

theorem anchored_map {Seen : Type} (make : Seen → Result) (seen : Option Seen)
    (each : ∀ item, Anchored source (make item)) : Anchored source (seen.map make) := by
  cases seen with
  | none => exact anchored_none.mpr trivial
  | some item => exact (anchored_some _).mpr (each item)

@[simp] theorem anchored_pair (pair : Result × Other) :
    Anchored source pair ↔ Anchored source pair.1 ∧ Anchored source pair.2 := by
  simp [Anchored, nodes, or_imp, forall_and]

theorem anchored_node (node : RawNode) :
    Anchored source node ↔
      (positioned node.kind = true → Anchor source node.start) ∧
        Anchored source node.children := by
  have below : Anchored source node.children ↔ ∀ child ∈ node.children, Anchored source child := by
    simp only [Anchored, nodes, List.mem_flatMap, List.mem_singleton]
    constructor
    · intro all child member inside same
      exact all inside ⟨child, member, same⟩
    · rintro all inside ⟨child, member, same⟩
      exact all child member inside same
  rw [below]
  simp only [Anchored, nodes, List.mem_singleton, forall_eq]
  exact RawNode.everywhere_iff _ node

/-! The nodes that rules make. Whether a position counts is read off the type. -/

@[simp] theorem anchored_node_with (start : Cursor) (type : String) (children : List RawNode) :
    Anchored source (nodeWith start type children) ↔
      (type ∈ positionedTypes → Anchor source start.point) ∧ Anchored source children := by
  rw [anchored_node, ← positioned_type type ""]
  rfl

@[simp] theorem anchored_group (start : Cursor) (children : List RawNode) :
    Anchored source (groupNode start children) ↔ Anchored source children := by
  simp [groupNode, positionedTypes]

@[simp] theorem anchored_leaf (token : Token) (type : String) :
    Anchored source (token.node type) ↔
      (type ∈ positionedTypes → Anchor source token.start.point) := by
  rw [anchored_node, ← positioned_type type token.text]
  exact and_iff_left (anchored_nil.mpr trivial)

@[simp] theorem anchored_plain (token : Token) : Anchored source token.plain := by
  rw [anchored_node]
  refine ⟨fun placed => ?_, anchored_nil.mpr trivial⟩
  exact absurd placed (by simp [Token.plain, RawNode.kind, keyword_unpositioned])

@[simp] theorem anchored_under (node : RawNode) (label : String) :
    Anchored source (node.under label) ↔ Anchored source node := by
  rw [anchored_node, anchored_node]
  rfl

@[simp] theorem anchored_part (label : String) (node : Option RawNode) :
    Anchored source (part label node) ↔ Anchored source node := by
  cases node <;> simp [part]

end Anchored

namespace Parser

/-- From a place in the text the parser leads to another one, and what it gives is anchored. -/
def Anchors (source : String) (parser : Parser Result) : Prop :=
  ∀ place result next, place.Within source → parser place = some (result, next) →
    next.Within source ∧ Anchored source result

section Anchors

theorem pure_anchors {result : Result} (held : Anchored source result) :
    Anchors source (pure result) := by
  intro place given next within taken
  cases taken
  exact ⟨within, held⟩

theorem failure_anchors : Anchors source (failure : Parser Result) := by
  intro place given next within taken
  cases taken

theorem bind_anchors {parser : Parser Result} {next : Result → Parser Other}
    (first : Anchors source parser)
    (second : ∀ result, Anchored source result → Anchors source (next result)) :
    Anchors source (parser >>= next) := by
  intro place given last within taken
  rw [bind_run, Option.bind_eq_some_iff] at taken
  obtain ⟨⟨result, middle⟩, begun, ended⟩ := taken
  obtain ⟨inside, held⟩ := first place result middle within begun
  exact second result held middle given last inside ended

-- Choice and sequence hold their second parser back in a function, as the laws must say it too.
theorem or_else_anchors {first : Parser Result} {second : Unit → Parser Result}
    (left : Anchors source first) (right : Anchors source (second ())) :
    Anchors source (HOrElse.hOrElse first second) := by
  intro place given next within taken
  have run := or_else_run first (second ()) place
  rw [show HOrElse.hOrElse first second place = (first <|> second ()) place from rfl, run,
    Option.or_eq_some_iff] at taken
  rcases taken with accepted | ⟨_, accepted⟩
  · exact left place given next within accepted
  · exact right place given next within accepted

theorem ite_anchors {asked : Prop} [Decidable asked] {yes no : Parser Result}
    (left : Anchors source yes) (right : Anchors source no) :
    Anchors source (if asked then yes else no) := by
  split
  · exact left
  · exact right

theorem seq_right_anchors {first : Parser Result} {second : Unit → Parser Other}
    (left : Anchors source first) (right : Anchors source (second ())) :
    Anchors source (SeqRight.seqRight first second) :=
  bind_anchors left fun _ _ => right

theorem seq_left_anchors {first : Parser Result} {second : Unit → Parser Other}
    (left : Anchors source first) (right : Anchors source (second ())) :
    Anchors source (SeqLeft.seqLeft first second) :=
  bind_anchors left fun _ held => bind_anchors right fun _ _ => pure_anchors held

theorem optional_anchors {parser : Parser Result} (inner : Anchors source parser) :
    Anchors source (optional parser) := by
  intro place given next within taken
  rw [optional_run] at taken
  cases run : parser place with
  | none =>
      rw [run] at taken
      cases taken
      exact ⟨within, anchored_none.mpr trivial⟩
  | some reached =>
      rw [run] at taken
      cases taken
      obtain ⟨inside, held⟩ := inner place reached.1 reached.2 within run
      exact ⟨inside, (anchored_some _).mpr held⟩

theorem many_within_anchors (parser : Parser Result) (inner : Anchors source parser) (count : Nat)
    (place : Place) (within : place.Within source) :
    (manyWithin parser count place).2.Within source ∧
      Anchored source (manyWithin parser count place).1 := by
  induction count generalizing place with
  | zero => exact ⟨within, anchored_nil.mpr trivial⟩
  | succ count ih =>
      rw [manyWithin]
      split
      · exact ⟨within, anchored_nil.mpr trivial⟩
      · rename_i result next taken
        obtain ⟨inside, held⟩ := inner place result next within taken
        split
        · obtain ⟨last, others⟩ := ih next inside
          exact ⟨last, (anchored_cons _ _).mpr ⟨held, others⟩⟩
        · exact ⟨within, anchored_nil.mpr trivial⟩

theorem many_anchors {parser : Parser Result} (inner : Anchors source parser) :
    Anchors source (many parser) := by
  intro place given next within taken
  have run : manyWithin parser place.before.left place = (given, next) := Option.some.inj taken
  have all := many_within_anchors parser inner place.before.left place within
  rw [run] at all
  exact all

theorem sep_by_anchors {parser : Parser Result} {separator : Parser Token}
    (inner : Anchors source parser) (between : Anchors source separator) :
    Anchors source (sepBy1 parser separator) := by
  refine bind_anchors inner fun first firstHeld => ?_
  refine bind_anchors (many_anchors (seq_right_anchors between inner)) fun rest restHeld => ?_
  exact pure_anchors (by simp [firstHeld, restHeld])

theorem accepts_anchors {parser : Parser Result} (inner : Anchors source parser) :
    Anchors source (accepts parser) :=
  or_else_anchors
    (seq_right_anchors inner (pure_anchors (anchored_bool true)))
    (pure_anchors (anchored_bool false))

-- What is looked at ahead is not taken, so nothing need be known about it.
theorem ahead_anchors {Seen : Type} {parser : Parser Seen} :
    Anchors source (ahead parser) := by
  intro place given next within taken
  simp only [ahead, bind_run, get_run, Option.bind_some, Option.bind_eq_some_iff] at taken
  obtain ⟨reached, _, replaced, restored, ended⟩ := taken
  cases restored
  cases ended
  exact ⟨within, anchored_bool _⟩

/-! Single tokens. A token that is taken is not the end of the text, so it stands at an anchor. -/

theorem get_anchors : Anchors source (get : Parser Place) := by
  intro place given next within taken
  cases taken
  exact ⟨within, by simp [Anchored, nodes]⟩

theorem peek_anchors : Anchors source peek := by
  intro place given next within taken
  cases taken
  exact ⟨within, anchored_token _⟩

theorem peek_second_anchors : Anchors source peekSecond := by
  intro place given next within taken
  cases taken
  exact ⟨within, anchored_token _⟩

theorem here_anchors : Anchors source here := by
  intro place given next within taken
  cases taken
  exact ⟨within, by simp [Anchored, nodes]⟩

theorem text_from_anchors {start : Cursor} : Anchors source (textFrom start) := by
  intro place given next within taken
  cases taken
  exact ⟨within, by simp [Anchored, nodes]⟩

theorem take_anchors : Anchors source take := by
  intro place given next within taken
  cases taken
  exact ⟨behind_token_within place within, anchored_token _⟩

theorem take_if_anchors {asked : Token → Bool} : Anchors source (takeIf asked) :=
  bind_anchors peek_anchors fun _ _ => ite_anchors take_anchors failure_anchors

theorem mark_anchors {text : String} : Anchors source (mark text) :=
  take_if_anchors

theorem word_anchors {text : String} : Anchors source (word text) :=
  take_if_anchors

theorem take_raw_anchors {scan : List Char → Option Nat} :
    Anchors source (takeRaw scan) := by
  intro place given next within taken
  simp only [takeRaw, bind_run, get_run, Option.bind_some] at taken
  cases length : scan place.before.rest with
  | none =>
      rw [length] at taken
      cases taken
  | some count =>
      rw [length] at taken
      cases taken
      exact ⟨place_within _ (forward_within _ _ (before_within place within)), anchored_unit _⟩

theorem take_as_anchors {scan : List Char → Option Nat} :
    Anchors source (takeAs scan) := by
  intro place given next within taken
  simp only [takeAs, bind_run, get_run, Option.bind_some] at taken
  cases length : scan place.token.start.rest with
  | none =>
      rw [length] at taken
      cases taken
  | some count =>
      rw [length] at taken
      cases taken
      exact ⟨place_within _ (forward_within _ _ (token_start_within place within)), anchored_unit _⟩

theorem comma_list_anchors {parser : Parser Result} (inner : Anchors source parser) :
    Anchors source (commaList parser) := by
  refine bind_anchors (optional_anchors (sep_by_anchors inner mark_anchors)) fun results held => ?_
  refine bind_anchors (optional_anchors mark_anchors) fun _ _ => ?_
  exact pure_anchors (by simpa using held)

theorem taken_node_anchors {parser : Parser Token} {type : String}
    (taken : Anchors source parser) (unplaced : type ∉ positionedTypes) :
    Anchors source (parser >>= fun token => pure (token.node type)) :=
  bind_anchors taken fun _ _ => pure_anchors (by simp [unplaced])

theorem covering_node_anchors {start : Cursor} {type : String} {children : List RawNode}
    (unplaced : type ∉ positionedTypes) (held : Anchored source children) :
    Anchors source (coveringNode start type children) := by
  refine bind_anchors text_from_anchors fun text _ => pure_anchors ?_
  rw [anchored_node]
  exact ⟨fun placed => absurd ((positioned_type type text).mp placed) unplaced, held⟩

end Anchors

/-! Nodes whose position counts start at a token that has been taken. Where only the start of the
next token has been noted, the end of the text must be refused by what follows. -/

theorem word_bind_anchors {text : String} {next : Token → Parser Result}
    (second : ∀ token, Anchor source token.start.point → Anchors source (next token)) :
    Anchors source (word text >>= next) := by
  intro place given last within taken
  rw [bind_run, word, take_if_run] at taken
  split at taken
  · rename_i asked
    have more : place.token.sort ≠ .finish := by
      intro ended
      simp [Token.isWordOf, ended] at asked
    exact second place.token (token_anchored place within more) _ given last
      (behind_token_within place within) taken
  · cases taken

theorem mark_at_end (text : String) (place : Place) (ended : place.token.sort = .finish) :
    mark text place = none := by
  simp [mark, take_if_run, Token.isMarkOf, ended]

theorem word_at_end (text : String) (place : Place) (ended : place.token.sort = .finish) :
    word text place = none := by
  simp [word, take_if_run, Token.isWordOf, ended]

/-- The parser takes something, so at the end of the text it refuses. -/
def RefusesEnd (parser : Parser Result) : Prop :=
  ∀ place : Place, place.token.sort = .finish → parser place = none

theorem here_bind_anchors {next : Cursor → Parser Result}
    (refuses : ∀ start, RefusesEnd (next start))
    (second : ∀ start, Anchor source start.point → Anchors source (next start)) :
    Anchors source (here >>= next) := by
  intro place given last within taken
  rw [bind_run, here_run, Option.bind_some] at taken
  by_cases ended : place.token.sort = .finish
  · rw [refuses _ place ended] at taken
    cases taken
  · exact second place.token.start (token_anchored place within ended) place given last within taken

end Parser

end SourceAtlas.TypeScript
