import SourceAtlas.TypeScript.Phrase

/-!
Literals that are read by the character: templates and regular expressions.
-/

open SourceAtlas.TypeScript.Parser

namespace SourceAtlas.TypeScript

/-- The length of template text up to and with the start of a hole, if a hole comes first. -/
def holeLength : Nat → List Char → Option Nat
  | count, '\\' :: _ :: rest => holeLength (count + 2) rest
  | count, '$' :: '{' :: _ => some (count + 2)
  | count, c :: rest => if c.toNat == 96 then none else holeLength (count + 1) rest
  | _, [] => none

/-- The length of template text up to and with the closing backquote, if that comes first. -/
def tailLength : Nat → List Char → Option Nat
  | count, '\\' :: _ :: rest => tailLength (count + 2) rest
  | _, '$' :: '{' :: _ => none
  | count, c :: rest => if c.toNat == 96 then some (count + 1) else tailLength (count + 1) rest
  | _, [] => none

def template (inside : Parser RawNode) : Parser RawNode := do
  let opening ← takeIf fun token => token.sort == .template
  let holes ← many do
    takeRaw (holeLength 0)
    let node ← inside
    let _ ← mark "\x7d"
    return node
  takeRaw (tailLength 0)
  return groupNode opening.start holes

/-- The length of a regular expression behind its opening slash, flags included. In a class of
characters a slash is plain. -/
def patternLength : Bool → Nat → List Char → Option Nat
  | inClass, count, '\\' :: c :: rest =>
    if c = '\n' then none else patternLength inClass (count + 2) rest
  | inClass, count, c :: rest =>
    if c = '\n' then none
    else if c = '/' && !inClass then
      some (count + 1 + (rest.takeWhile fun c => Char.isAlphanum c).length)
    else
      patternLength ((inClass || c == '[') && c != ']') (count + 1) rest
  | _, _, [] => none

/-- The length of a regular expression that starts at its opening slash. -/
def regexLength : List Char → Option Nat
  | '/' :: rest => patternLength false 1 rest
  | _ => none

def regex : Parser RawNode := do
  let start ← here
  takeAs regexLength
  return groupNode start []

end SourceAtlas.TypeScript
