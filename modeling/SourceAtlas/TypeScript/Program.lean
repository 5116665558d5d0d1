import SourceAtlas.TypeScript.Expression
import SourceAtlas.TypeScript.Statement

/-!
Whole programs.

A phrase may contain phrases of every sort, so the rules are tied together by the depth to which
they are nested. Every second level takes a character at least, so a text is never nested deeper
than four levels for each of its characters.
-/

open SourceAtlas.TypeScript.Parser

namespace SourceAtlas.TypeScript

/-- The grammar for phrases up to a nesting depth. -/
def grammar (language : Language) : Nat → Grammar
  | 0, _ => failure
  | depth + 1, .statement => statement (grammar language depth)
  | depth + 1, .expression mode => expression language (grammar language depth) mode
  | depth + 1, .literal => literal (grammar language depth)
  | depth + 1, .type => type (grammar language depth)
  | depth + 1, .plainType => plainType (grammar language depth) false
  | depth + 1, .element => element (grammar language depth)

def interpreterLine : List Char → Option Nat
  | '#' :: '!' :: rest => some (2 + (rest.takeWhile fun c => !endsLine c).length)
  | _ => none

def strayToken : Parser RawNode := do
  let token ← takeIf fun token => token.sort != .finish
  return nodeWith token.start "ERROR" []

def program (language : Language) (depth : Nat) : Parser RawNode := do
  let start ← here
  let _ ← optional (takeRaw interpreterLine)
  let statements ← many (grammar language depth .statement <|> strayToken)
  return nodeWith start "program" statements

/-- The tree of a source text. Text that is no statement is left out of it. -/
def rawTree (language : Language) (source : String) : RawNode :=
  let cursor := Cursor.ofText source
  match program language (4 * cursor.left + 4) (Place.ofCursor cursor) with
  | some (root, _) => root
  | none => nodeWith cursor "program" []

/-- The tree of a source text with the kinds and fields that its nodes stand for. -/
def parse (language : Language) (source : String) : Tree.Node :=
  (rawTree language source).view

end SourceAtlas.TypeScript
