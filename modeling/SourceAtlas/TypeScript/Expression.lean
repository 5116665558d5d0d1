import SourceAtlas.Language
import SourceAtlas.TypeScript.ClassPhrase
import SourceAtlas.TypeScript.Markup
import SourceAtlas.TypeScript.TypePhrase

/-!
Expressions.

An expression is a row of operands with operators between them. Which operator binds more tightly
does not matter to anything that is asked of a tree, so the row is kept as it stands. What matters
is where an expression ends, and whether it is as a whole a name or a class.
-/

open SourceAtlas.TypeScript.Parser

namespace SourceAtlas.TypeScript

def arrowBody (grammar : Grammar) (mode : ExpressionMode) : Parser RawNode := do
  let _ ← mark "=>"
  if (← peek).isMarkOf "\x7b" then grammar.block else grammar (.expression mode)

/-- A member of a list in parentheses: an argument, or a parameter of an arrow function. -/
def enclosed (grammar : Grammar) : Parser RawNode := do
  let start ← here
  let inside ← grammar.spread
  let _ ← optional (mark "?")
  let type ← optional (ascription grammar)
  let value ← optional grammar.initial
  if type.isNone && value.isNone then return inside
  else return groupNode start (inside :: type.toList ++ value.toList)

/-- Whatever starts with a parenthesis: the arrow behind the closing one tells functions from
expressions. -/
def parenthesized (grammar : Grammar) (mode : ExpressionMode) : Parser RawNode := do
  let start ← mark "("
  let inside ← commaList (enclosed grammar)
  let _ ← mark ")"
  let typed : Parser (List RawNode) := do
    let type ← ascription grammar
    let body ← arrowBody grammar mode
    return [type, body]
  let plain : Parser (List RawNode) := do
    return [← arrowBody grammar mode]
  let behind ← optional (plain <|> if mode.typedArrow then typed else failure)
  return groupNode start.start (inside ++ behind.getD [])

/-- A function without a name or with one that only it can see. -/
def functionExpression (grammar : Grammar) : Parser RawNode := do
  let start ← here
  let _ ← optional (word "async")
  let _ ← word "function"
  let _ ← optional (mark "*")
  let _ ← optional (takeIf Token.isName)
  let signature ← signature grammar
  let body ← grammar.block
  return groupNode start (signature.nodes ++ [body])

/-- A function of one parameter, which stands without parentheses. -/
def arrowFunction (grammar : Grammar) (mode : ExpressionMode) : Parser RawNode := do
  let name ← takeIf Token.isName
  let body ← arrowBody grammar mode
  return groupNode name.start [body]

/-- An asynchronous function, or something called `async`. -/
def asyncExpression (grammar : Grammar) (mode : ExpressionMode) : Parser RawNode := do
  let start ← word "async"
  let token ← peek
  let arrow : Parser RawNode := if token.onNewLine then failure else arrowFunction grammar mode
  let generic : Parser RawNode := do
    let types ← optional (typeParameters grammar)
    let inside ← parenthesized grammar mode
    return groupNode start.start (types.toList ++ [inside])
  arrow <|> generic <|> return start.node "identifier"

def valueWords : List String :=
  ["this", "super", "null", "true", "false", "undefined", "import"]

def newTarget : Parser RawNode := do
  let start ← word "new"
  let _ ← mark "."
  let _ ← word "target"
  return groupNode start.start []

def wordOperand (grammar : Grammar) (mode : ExpressionMode) (token : Token) : Parser RawNode := do
  if token.isAnyWord valueWords then return (← take).node "keyword"
  else if token.isWordOf "function" then functionExpression grammar
  else if token.isWordOf "class" then classExpression grammar
  else if token.isWordOf "new" then newTarget
  else if token.isWordOf "async" then
    let second ← peekSecond
    if second.isWordOf "function" && !second.onNewLine then functionExpression grammar
    else arrowFunction grammar mode <|> asyncExpression grammar mode
  else
    arrowFunction grammar mode <|> return (← takeIf Token.isName).node "identifier"

/-- Whether an angle bracket opens the type parameters of an arrow function, where it could also
open a tag. -/
def opensTypeParameters : Parser Bool :=
  ahead do
    let _ ← mark "<"
    let first ← takeIf fun token => token.sort == .word
    let second ← peek
    if second.isMarkOf "," then return ()
    else if second.isWordOf "extends" then
      let _ ← take
      if (← peek).isAnyMark ["=", ">", "/"] then failure else return ()
    else if first.text == "const" && second.sort == .word then return ()
    else failure

/-- Whatever starts with an angle bracket: an element, a generic function, or a type asserted of the
operand behind it. -/
def angled (language : Language) (grammar : Grammar) (mode : ExpressionMode) : Parser RawNode := do
  let start ← here
  let generic ← opensTypeParameters
  if language == .tsx && !generic then grammar .element
  else
    let types ← typeParameters grammar <|> typeArguments grammar
    let operand ← grammar (.expression mode)
    return groupNode start [types, operand]

def primary (language : Language) (grammar : Grammar) (mode : ExpressionMode) : Parser RawNode := do
  let token ← peek
  match token.sort with
  | .word => wordOperand grammar mode token
  | .privateName => return (← take).node "private_property_identifier"
  | .number => return (← take).node "number"
  | .string => return (← take).node "string"
  | .template => template (grammar.sequence {})
  | .mark =>
    match token.text with
    | "(" => parenthesized grammar mode
    | "<" => angled language grammar mode
    | "@" => classExpression grammar
    | "/" => regex
    | "/=" => regex
    | _ => grammar .literal
  | _ => failure

/-- An operator in front of an operand. The words `await` and `yield` are operators only in front of
one, and stand for themselves otherwise. -/
def leadingOperator : Parser Token := do
  let token ← peek
  let second ← peekSecond
  if token.isAnyMark ["!", "~", "+", "-", "++", "--"] then take
  else if token.isAnyWord ["typeof", "void", "delete"] then take
  else if token.isWordOf "new" && !second.isMarkOf "." then take
  else if token.isWordOf "yield" && second.isMarkOf "*" then take *> take
  else if token.isAnyWord ["await", "yield"] && second.startsOperand && !second.onNewLine then take
  else failure

/-- Whether the tokens in front can follow type arguments that belong to an expression, and not two
comparisons. -/
def endsTypeArguments : Parser Unit := do
  let token ← peek
  if token.isAnyMark ["<", ">", "+", "-"] then failure
  else if token.isAnyMark ["(", "\x7b"] || token.sort == .template || token.onNewLine
      || !token.startsOperand then return ()
  else failure

def suffix (grammar : Grammar) : Parser (List RawNode) := do
  let token ← peek
  match token.sort with
  | .template => return [← template (grammar.sequence {})]
  | .mark =>
    match token.text with
    | "." =>
      let _ ← take
      let _ ← takeIf Token.isMemberName
      return []
    | "?." =>
      let _ ← take
      let _ ← optional (takeIf Token.isMemberName)
      return []
    | "(" => grammar.arguments
    | "[" =>
      let _ ← take
      let index ← grammar.sequence {}
      let _ ← mark "]"
      return [index]
    | "<" =>
      let types ← typeArguments grammar
      endsTypeArguments
      return [types]
    | _ =>
      let _ ← takeIf fun token => token.isAnyMark ["!", "++", "--"] && !token.onNewLine
      return []
  | _ => failure

def operand (language : Language) (grammar : Grammar) (mode : ExpressionMode) : Parser RawNode := do
  let start ← here
  let operators ← many leadingOperator
  let inside ← primary language grammar mode
  let suffixes ← many (suffix grammar)
  if operators.isEmpty && suffixes.isEmpty then return inside
  else return groupNode start (inside :: suffixes.flatten)

-- Operators between two operands, those that start with an angle bracket apart.
def operatorMarks : List String :=
  ["*", "/", "%", "**", "+", "-", "&", "|", "^", "&&", "||", "??", "==", "!=", "===", "!==", "=",
    "+=", "-=", "*=", "/=", "%=", "**=", "&=", "|=", "^=", "&&=", "||=", "??="]

-- A run of angle brackets, with perhaps an equals sign behind it and nothing in between.
def angleOperator : Parser Unit := do
  let first ← mark "<" <|> mark ">"
  let _ ← many do
    let place ← get
    takeIf fun token =>
      token.start.left == place.before.left && (token.isMarkOf first.text || token.isMarkOf "=")

def operator (mode : ExpressionMode) : Parser Unit := do
  let token ← peek
  if token.isAnyMark operatorMarks || token.isWordOf "instanceof"
      || (mode.inOperator && token.isWordOf "in") then
    let _ ← take
  else angleOperator

/-- A choice between two expressions. The colon may have been taken for the start of a result type,
in which case the first expression is read again without one. A question mark in front of a colon,
comma or closing parenthesis marks a parameter that may be missing. -/
def choice (grammar : Grammar) (mode : ExpressionMode) : Parser (List RawNode) := do
  let second ← peekSecond
  if second.isAnyMark [":", ",", ")", "="] then failure
  else
    let _ ← mark "?"
    let yes ← (grammar.expression <* mark ":") <|>
      (grammar (.expression { typedArrow := false }) <* mark ":")
    let no ← grammar (.expression mode)
    return [yes, no]

def continuation (language : Language) (grammar : Grammar) (mode : ExpressionMode) :
    Parser (List RawNode) := do
  let token ← peek
  if token.isMarkOf "?" then choice grammar mode
  else if token.isAnyWord ["as", "satisfies"] && !token.onNewLine then
    let _ ← take
    return [← grammar .type]
  else
    operator mode
    return [← operand language grammar mode]

def expression (language : Language) (grammar : Grammar) (mode : ExpressionMode) :
    Parser RawNode := do
  let start ← here
  let first ← operand language grammar mode
  let rest ← many (continuation language grammar mode)
  if rest.isEmpty then return first else return groupNode start (first :: rest.flatten)

end SourceAtlas.TypeScript
