import SourceAtlas.TypeScript.Exchange

/-!
Statements.

A statement ends at a semicolon, or where the next token cannot belong to it. The few places where
a line break alone decides are named where they occur.
-/

open SourceAtlas.TypeScript.Parser

namespace SourceAtlas.TypeScript

def headCondition (grammar : Grammar) : Parser RawNode := do
  let _ ← mark "("
  let inside ← grammar.sequence {}
  let _ ← mark ")"
  return inside

def ifStatement (grammar : Grammar) : Parser RawNode := do
  let start ← word "if"
  let test ← headCondition grammar
  let yes ← grammar .statement
  let no ← optional (word "else" *> grammar .statement)
  return groupNode start.start (test :: yes :: no.toList)

def whileStatement (grammar : Grammar) : Parser RawNode := do
  let start ← takeIf (·.isAnyWord ["while", "with"])
  let test ← headCondition grammar
  let inside ← grammar .statement
  return groupNode start.start [test, inside]

def doStatement (grammar : Grammar) : Parser RawNode := do
  let start ← word "do"
  let inside ← grammar .statement
  let _ ← word "while"
  let test ← headCondition grammar
  endStatement
  return groupNode start.start [inside, test]

def eachHead (grammar : Grammar) : Parser (List RawNode) := do
  let declared : Parser (List RawNode) := do
    let _ ← takeIf (·.isAnyWord ["var", "let", "const", "using"])
    let name ← binding grammar
    let type ← optional (ascription grammar)
    let value ← optional (mark "=" *> grammar (.expression { inOperator := false }))
    return name :: type.toList ++ value.toList
  let assigned : Parser (List RawNode) := do
    return [← grammar.sequence { inOperator := false }]
  let overWord := takeIf (·.isAnyWord ["of", "in"])
  let left ← (declared <* overWord) <|> (assigned <* overWord)
  let right ← grammar.sequence {}
  return left ++ [right]

def countHead (grammar : Grammar) : Parser (List RawNode) := do
  let start ← optional
    (variableList grammar { inOperator := false } <|>
      grammar.sequence { inOperator := false })
  let _ ← mark ";"
  let test ← optional (grammar.sequence {})
  let _ ← mark ";"
  let step ← optional (grammar.sequence {})
  return start.toList ++ test.toList ++ step.toList

def forStatement (grammar : Grammar) : Parser RawNode := do
  let start ← word "for"
  let _ ← optional (word "await")
  let _ ← mark "("
  let head ← eachHead grammar <|> countHead grammar
  let _ ← mark ")"
  let inside ← grammar .statement
  return groupNode start.start (head ++ [inside])

def caseLabel (grammar : Grammar) : Parser RawNode := do
  let start ← here
  let value : Parser (List RawNode) := do
    let _ ← word "case"
    return [← grammar.sequence { typedArrow := false }]
  let otherwise : Parser (List RawNode) := do
    let _ ← word "default"
    return []
  let parts ← value <|> otherwise
  let _ ← mark ":"
  return groupNode start parts

def switchStatement (grammar : Grammar) : Parser RawNode := do
  let start ← word "switch"
  let value ← headCondition grammar
  let cases ← Grammar.body "switch_body" (caseLabel grammar <|> grammar .statement)
  return groupNode start.start [value, cases]

def tryStatement (grammar : Grammar) : Parser RawNode := do
  let start ← word "try"
  let inside ← grammar.block
  let caught : Parser (List RawNode) := do
    let _ ← word "catch"
    let parameter ← optional (mark "(" *> parameter grammar <* mark ")")
    let handler ← grammar.block
    return parameter.toList ++ [handler]
  let handled ← optional caught
  let always ← optional (word "finally" *> grammar.block)
  return groupNode start.start (inside :: handled.getD [] ++ always.toList)

/-- A statement that leaves something, perhaps with a value on the same line. -/
def jumpStatement (grammar : Grammar) : Parser RawNode := do
  let start ← takeIf (·.isAnyWord ["return", "throw", "break", "continue", "debugger"])
  let token ← peek
  let value ← if token.onNewLine && start.text != "throw" then pure none
    else optional (grammar.sequence {})
  endStatement
  return groupNode start.start value.toList

def labeled (grammar : Grammar) : Parser RawNode := do
  let _ ← takeIf Token.isName
  let _ ← mark ":"
  grammar .statement

def emptyStatement : Parser RawNode := do
  return groupNode (← mark ";").start []

def expressionStatement (grammar : Grammar) : Parser RawNode := do
  let inside ← grammar.sequence {}
  endStatement
  return inside

def controlStatement (grammar : Grammar) : Parser RawNode :=
  ifStatement grammar <|> forStatement grammar <|> whileStatement grammar <|>
    doStatement grammar <|> switchStatement grammar <|> tryStatement grammar <|>
    jumpStatement grammar

def statement (grammar : Grammar) : Parser RawNode := do
  let token ← peek
  match token.sort with
  | .mark =>
    match token.text with
    | "\x7b" => grammar.block
    | ";" => emptyStatement
    | "@" => classDeclaration grammar <|> exportNode grammar <|> expressionStatement grammar
    | _ => expressionStatement grammar
  | .word =>
    exportNode grammar <|> importNode grammar <|> declaration grammar <|>
      controlStatement grammar <|> labeled grammar <|> expressionStatement grammar
  | _ => expressionStatement grammar

end SourceAtlas.TypeScript
