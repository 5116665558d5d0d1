import SourceAtlas.TypeScript.RawNode
import SourceAtlas.TypeScript.Token

/-!
Parsers: functions that read some tokens of a text and build something of them, or refuse.

A refusal leaves nothing behind, so alternatives are tried from the same place. Phrases touch the
text only through the functions of this module, which move forward by whole tokens or, inside
templates and between tags, by scanned lengths.
-/

namespace SourceAtlas.TypeScript

/-- Where a parser stands: the end of the last token it took, and the token it will see next. -/
structure Place where
  before : Cursor
  token : Token

def Place.ofCursor (cursor : Cursor) : Place :=
  { before := cursor, token := Token.read cursor }

abbrev Parser := StateT Place Option

namespace Parser

/-- The next token, which stays where it is. -/
def peek : Parser Token := do
  return (← get).token

def peekSecond : Parser Token := do
  return Token.read (← get).token.stop

def take : Parser Token := do
  let token ← peek
  set (Place.ofCursor token.stop)
  return token

def takeIf (asked : Token → Bool) : Parser Token := do
  let token ← peek
  if asked token then take else failure

def mark (text : String) : Parser Token :=
  takeIf (·.isMarkOf text)

def word (text : String) : Parser Token :=
  takeIf (·.isWordOf text)

/-- Whether a parser accepts what comes next; what it accepts is taken. -/
def accepts {Result : Type} (parser : Parser Result) : Parser Bool :=
  (parser *> pure true) <|> pure false

/-- Whether a parser would accept what comes next; nothing is taken. -/
def ahead {Result : Type} (parser : Parser Result) : Parser Bool := do
  let place ← get
  let accepted ← accepts parser
  set place
  return accepted

def manyWithin {Result : Type} (parser : Parser Result) : Nat → Place → List Result × Place
  | 0, place => ([], place)
  | count + 1, place =>
    match parser place with
    | none => ([], place)
    | some (result, next) =>
      -- A parser that takes nothing would be asked the same again.
      if next.before.left < place.before.left then
        let (results, last) := manyWithin parser count next
        (result :: results, last)
      else ([], place)

/-- Apply a parser as often as it accepts. Each time takes a character, so the characters that are
left bound the number of times. -/
def many {Result : Type} (parser : Parser Result) : Parser (List Result) := fun place =>
  some (manyWithin parser place.before.left place)

def sepBy1 {Result : Type} (parser : Parser Result) (separator : Parser Token) :
    Parser (List Result) := do
  let first ← parser
  let rest ← many (separator *> parser)
  return first :: rest

/-- Results with commas between neighbours; a last comma is allowed. -/
def commaList {Result : Type} (parser : Parser Result) : Parser (List Result) := do
  let results ← optional (sepBy1 parser (mark ","))
  let _ ← optional (mark ",")
  return results.getD []

/-- Take characters from the end of the last token on, as many as the scanner says. -/
def takeRaw (scan : List Char → Option Nat) : Parser Unit := do
  let place ← get
  match scan place.before.rest with
  | none => failure
  | some count => set (Place.ofCursor (place.before.forward count))

def takeAs (scan : List Char → Option Nat) : Parser Unit := do
  let place ← get
  match scan place.token.start.rest with
  | none => failure
  | some count => set (Place.ofCursor (place.token.start.forward count))

def here : Parser Cursor := do
  return (← peek).start

/-- The text from a cursor up to the end of the last token taken. -/
def textFrom (start : Cursor) : Parser String := do
  return String.ofList (start.upTo (← get).before)

end Parser

/-! Nodes of a text. -/

def Token.node (token : Token) (type : String) : RawNode :=
  { mark := token.start.left, label := none, type, named := true, text := token.text
    start := token.start.point, children := [] }

/-- A keyword or a mark, which is a node of the type that it is written with. -/
def Token.plain (token : Token) : RawNode :=
  { token.node token.text with named := false }

-- Where no rule says otherwise, the text of a node is nowhere asked for and not kept.
def nodeWith (start : Cursor) (type : String) (children : List RawNode) : RawNode :=
  { mark := start.left, label := none, type, named := true, text := "", start := start.point
    children }

/-- A node that only holds others together. -/
def groupNode (start : Cursor) (children : List RawNode) : RawNode :=
  nodeWith start "phrase" children

/-- The node with the text from its start to the end of the last token taken. -/
def coveringNode (start : Cursor) (type : String) (children : List RawNode) :
    Parser RawNode := do
  return { nodeWith start type children with text := ← Parser.textFrom start }

/-- A part that may be absent, under its label. -/
def part (label : String) (node : Option RawNode) : List RawNode :=
  (node.map (·.under label)).toList

end SourceAtlas.TypeScript
