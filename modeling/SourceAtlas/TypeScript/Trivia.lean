import SourceAtlas.Text.Blank

/-!
What stands between two tokens: blanks and comments.
-/

namespace SourceAtlas.TypeScript

/-- Blank characters, and the joiners and marks that are passed over like them. -/
def isSpace (c : Char) : Bool :=
  Text.isBlank c || c.toNat == 0xFEFF || c.toNat == 0x2060 || c.toNat == 0x200B

/-- Line feeds and carriage returns, and the separators of lines and of paragraphs. -/
def endsLine (c : Char) : Bool :=
  c == '\n' || c == '\r' || c.toNat == 0x2028 || c.toNat == 0x2029

inductive TriviaMode where
  | blanks
  | lineComment
  | blockComment

/-- How many characters stand in front of the next token, added to `count`. -/
def triviaLength : TriviaMode → Nat → List Char → Nat
  | .blanks, count, '/' :: '/' :: rest => triviaLength .lineComment (count + 2) rest
  | .blanks, count, '/' :: '*' :: rest => triviaLength .blockComment (count + 2) rest
  | .blockComment, count, '*' :: '/' :: rest => triviaLength .blanks (count + 2) rest
  | .blanks, count, c :: rest =>
    if isSpace c then triviaLength .blanks (count + 1) rest else count
  | .lineComment, count, c :: rest =>
    triviaLength (if endsLine c then .blanks else .lineComment) (count + 1) rest
  | .blockComment, count, _ :: rest => triviaLength .blockComment (count + 1) rest
  | _, count, [] => count

end SourceAtlas.TypeScript
