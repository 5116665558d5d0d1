import SourceAtlas.TypeScript.Parser

/-!
Phrases: the parts of TypeScript that contain one another.

Every rule of the grammar is a plain function of a `Grammar`, which parses the phrases inside it.
The rules are tied together once, in the module for whole programs.
-/

namespace SourceAtlas.TypeScript

/-- What an expression may contain, where that depends on its surroundings. -/
structure ExpressionMode where
  /-- Whether `in` is an operator, which it is not in the head of a loop. -/
  inOperator : Bool := true
  /-- Whether a colon behind a parenthesis may begin the result type of an arrow function. -/
  typedArrow : Bool := true

inductive Phrase where
  | statement
  | expression (mode : ExpressionMode)
  /-- An object or list literal with nothing behind it, which is also how patterns are written. -/
  | literal
  | type
  | plainType
  | element

abbrev Grammar := Phrase → Parser RawNode

namespace Grammar

open Parser

def expression (grammar : Grammar) : Parser RawNode :=
  grammar (.expression {})

def sequence (grammar : Grammar) (mode : ExpressionMode) : Parser RawNode := do
  let start ← here
  let parts ← sepBy1 (grammar (.expression mode)) (mark ",")
  match parts with
  | [only] => return only
  | _ => return groupNode start parts

/-- An expression, or all that a list expression contains. -/
def spread (grammar : Grammar) : Parser RawNode := do
  let _ ← optional (mark "...")
  grammar.expression

def arguments (grammar : Grammar) : Parser (List RawNode) := do
  let _ ← mark "("
  let arguments ← commaList grammar.spread
  let _ ← mark ")"
  return arguments

def initial (grammar : Grammar) : Parser RawNode := do
  let _ ← mark "="
  grammar.expression

-- The bracket that closes a body. The end of the text closes every body that is still open.
def closeBody : Parser Unit := do
  let token ← peek
  if token.sort == .finish then return () else
    let _ ← mark "\x7d"

/-- A token that no rule accepts, which is passed over. -/
def passOver : Parser RawNode := do
  let token ← takeIf fun token => token.sort != .finish && !token.isMarkOf "\x7d"
  return nodeWith token.start "ERROR" []

def body (type : String) (item : Parser RawNode) : Parser RawNode := do
  let start ← here
  let _ ← mark "\x7b"
  let items ← many (item <|> passOver)
  closeBody
  return nodeWith start type items

def block (grammar : Grammar) : Parser RawNode :=
  body "statement_block" (grammar .statement)

end Grammar

/-- Words that are never the name of a variable. -/
def reservedWords : List String :=
  ["break", "case", "catch", "class", "const", "continue", "debugger", "default", "delete", "do",
    "else", "enum", "export", "extends", "finally", "for", "function", "if", "import", "in",
    "instanceof", "new", "return", "super", "switch", "this", "throw", "try", "typeof", "var",
    "void", "while", "with", "null", "true", "false"]

def Token.isName (token : Token) : Bool :=
  token.sort == .word && !reservedWords.contains token.text

def Token.isAnyMark (token : Token) (marks : List String) : Bool :=
  token.sort == .mark && marks.contains token.text

def Token.isAnyWord (token : Token) (words : List String) : Bool :=
  token.sort == .word && words.contains token.text

/-- A name behind a point: any word, and a private name. -/
def Token.isMemberName (token : Token) : Bool :=
  token.sort == .word || token.sort == .privateName

def operatorWords : List String :=
  ["in", "instanceof", "as", "satisfies", "of", "implements", "extends", "is"]

def Token.startsOperand (token : Token) : Bool :=
  match token.sort with
  | .word => !operatorWords.contains token.text
  | .mark =>
    token.isAnyMark ["(", "[", "\x7b", "/", "/=", "!", "~", "+", "-", "++", "--", "<", "@"]
  | .stray => false
  | .finish => false
  | _ => true

end SourceAtlas.TypeScript
