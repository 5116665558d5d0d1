import SourceAtlas.TypeScript.Signature

/-!
Markup: elements written in tags among the expressions of the dialect that has them.
-/

open SourceAtlas.TypeScript.Parser

namespace SourceAtlas.TypeScript

/-- Text between tags runs up to the next tag or brace. -/
def markupTextLength (chars : List Char) : Option Nat :=
  some (chars.takeWhile fun c => c != '<' && c != '{').length

-- A string in a tag has no escapes and may run over several lines.
def attributeStringLength : List Char → Option Nat
  | quote :: rest =>
    if quote.toNat == 34 || quote.toNat == 39 then
      let inside := rest.takeWhile (· != quote)
      if inside.length < rest.length then some (inside.length + 2) else none
    else none
  | [] => none

/-- The name of a tag or attribute, with its points, colons and dashes. -/
def tagName : Parser Unit := do
  let _ ← takeIf fun token => token.sort == .word
  let _ ← many ((mark "." <|> mark ":" <|> mark "-" <|> mark "--") *>
    takeIf fun token => token.sort == .word || token.sort == .number)

def embedded (grammar : Grammar) : Parser RawNode := do
  let start ← mark "\x7b"
  let _ ← optional (mark "...")
  let inside ← optional (grammar.sequence {})
  let _ ← mark "\x7d"
  return groupNode start.start inside.toList

def attributeValue (grammar : Grammar) : Parser RawNode := do
  let start ← here
  let text : Parser RawNode := do
    takeAs attributeStringLength
    return groupNode start []
  embedded grammar <|> grammar .element <|> text

def tagAttribute (grammar : Grammar) : Parser RawNode := do
  let start ← here
  let named : Parser RawNode := do
    tagName
    let value ← optional (mark "=" *> attributeValue grammar)
    return groupNode start value.toList
  embedded grammar <|> named

/-- Text, and then a tag or an expression in braces. -/
def markupChild (grammar : Grammar) : Parser RawNode := do
  takeRaw markupTextLength
  embedded grammar <|> grammar .element

def closingTag : Parser Unit := do
  takeRaw markupTextLength
  let _ ← mark "<"
  let _ ← mark "/"
  let _ ← optional tagName
  let _ ← mark ">"

def element (grammar : Grammar) : Parser RawNode := do
  let start ← mark "<"
  let name ← optional tagName
  let types ← if name.isSome then optional (typeArguments grammar) else pure none
  let attributes ← if name.isSome then many (tagAttribute grammar) else pure []
  let inside : Parser (List RawNode) := do
    let _ ← mark ">"
    let children ← many (markupChild grammar)
    closingTag
    return children
  let empty : Parser (List RawNode) := do
    let _ ← mark "/"
    let _ ← mark ">"
    return []
  let children ← inside <|> if name.isSome then empty else failure
  return groupNode start.start (types.toList ++ attributes ++ children)

end SourceAtlas.TypeScript
