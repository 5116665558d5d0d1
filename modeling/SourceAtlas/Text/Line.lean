import SourceAtlas.Text.Blank

/-!
Text made fit for one line of a diagram.

Every name, type, label and title of a drawing comes from outside and may hold anything. The
functions here are the only way such text reaches a line: `singleLine` leaves no line break,
`memberText` no brace or angle bracket, `label` no quote or bar, and `identifier` nothing but
word characters.
-/

namespace SourceAtlas.Text

/-- The words of the text with one space between neighbours. -/
def singleLine (text : String) : String :=
  String.ofList ([' '].intercalate (words text.toList))

def isBrace (c : Char) : Bool :=
  c == '{' || c == '}'

def isAngle (c : Char) : Bool :=
  c == '<' || c == '>'

-- Text inside a class block: braces would close the block, and generics are written with `~`.
def memberText (text : String) : String :=
  let kept := text.toList.filter fun c => !isBrace c
  singleLine (String.ofList (kept.map fun c => if isAngle c then '~' else c))

-- A label stands between quotes or bars, for which there is no escape but an entity code.
def labelCode : Char → List Char
  | '"' => "#quot;".toList
  | '|' => "#124;".toList
  | c => [c]

def label (text : String) : String :=
  String.ofList ((singleLine text).toList.flatMap labelCode)

/-- The name given to what has none. -/
def unknownName : String := "Unknown"

def isIdentifierChar (c : Char) : Bool :=
  c.isAlphanum || c == '_'

-- A word over letters, digits and `_` of ASCII, with one character for each of the name's.
def identifier (name : String) : String :=
  if name.isEmpty then unknownName
  else String.ofList (name.toList.map fun c => if isIdentifierChar c then c else '_')

end SourceAtlas.Text
