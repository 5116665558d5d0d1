import SourceAtlas.TypeScript.Member

/-!
Object and list literals, which are also the form of patterns.
-/

open SourceAtlas.TypeScript.Parser

namespace SourceAtlas.TypeScript

def objectModifier : Parser RawNode := do
  let token ← peek
  let second ← peekSecond
  if token.isAnyWord ["get", "set", "async"] && (startsMemberName second || second.isMarkOf "*") then
    return modifierNode (← take)
  else failure

/-- One entry of an object: a method, a value under a name, or a name that is its own value, to
which a pattern adds what replaces a missing value. -/
def objectEntry (grammar : Grammar) : Parser RawNode := do
  let start ← here
  if ← accepts (mark "...") then grammar.expression
  else
    let modifiers ← many objectModifier
    let _ ← optional (mark "*")
    let name ← memberName grammar
    let token ← peek
    if token.isAnyMark ["(", "<"] then methodNode grammar start modifiers name
    else
      let value ← optional ((mark ":" <|> mark "=") *> grammar.expression)
      return groupNode start (name :: value.toList)

def object (grammar : Grammar) : Parser RawNode := do
  let start ← mark "\x7b"
  let entries ← commaList (objectEntry grammar)
  let _ ← mark "\x7d"
  return groupNode start.start entries

-- A list may leave places empty.
def list (grammar : Grammar) : Parser RawNode := do
  let start ← mark "["
  let items ← many (grammar.spread <|> do return groupNode (← mark ",").start [])
  let _ ← mark "]"
  return groupNode start.start items

def literal (grammar : Grammar) : Parser RawNode :=
  object grammar <|> list grammar

end SourceAtlas.TypeScript
