/-!
Places in a source text.

A line ends at a line feed and at nothing else, and a column is a number of UTF-8 bytes, so that a
place can be found again in the stored text. Syntax trees count both from zero, and what is reported
counts both from one.
-/

namespace SourceAtlas

structure Position where
  line : Nat
  column : Nat
  deriving DecidableEq, Repr, Inhabited

/-- A place as a syntax tree gives it. -/
structure Point where
  row : Nat
  column : Nat
  deriving DecidableEq, Repr

namespace Point

def start : Point := ⟨0, 0⟩

/-- Where the next character stands once `c` has been passed. -/
def past (point : Point) (c : Char) : Point :=
  if c = '\n' then ⟨point.row + 1, 0⟩ else ⟨point.row, point.column + c.utf8Size⟩

def position (point : Point) : Position := ⟨point.row + 1, point.column + 1⟩

end Point

namespace Position

/-- The position of the first character of a text. -/
def start : Position := Point.start.position

/-- The position of an entity that was not read from any text. -/
def origin : Position := ⟨0, 0⟩

def render (position : Position) : String :=
  toString position.line ++ ":" ++ toString position.column

end Position

/-- The number of lines of a text: a last line counts even when no line feed ends it, unless it
is empty. -/
def lineCount (text : String) : Nat :=
  let chars := text.toList
  chars.count '\n' + (if chars.getLast?.all (· == '\n') then 0 else 1)

end SourceAtlas
