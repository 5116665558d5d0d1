import SourceAtlas.TypeScript.Cursor
import SourceAtlas.TypeScript.Trivia

/-!
Tokens of TypeScript.

A token is read where it is needed, because what a character begins depends on what is expected
there. By default a slash divides and angle brackets stand alone: the phrase that wants a regular
expression, the inside of a template or the text between two tags reads it from the same place
itself, and a run of angle brackets is put together by the phrase that wants an operator.
-/

namespace SourceAtlas.TypeScript

inductive TokenSort where
  | word
  /-- A name that starts with `#`. -/
  | privateName
  | number
  | string
  | template
  | mark
  /-- A character that begins no token. -/
  | stray
  | finish
  deriving DecidableEq, Repr

structure Token where
  sort : TokenSort
  text : String
  start : Cursor
  stop : Cursor
  /-- Whether a line ends between the token and the one before it. -/
  onNewLine : Bool

namespace Token

/-- The characters that never belong to a name, blanks and control characters apart. -/
def punctuation : List Char :=
  ":;\"@#.,|^&<=>+-*/\\%?!~()[]\x7b\x7d".toList ++ [Char.ofNat 39, Char.ofNat 96]

def isWordPart (c : Char) : Bool :=
  0x1F < c.toNat && !isSpace c && !punctuation.contains c

def isWordStart (c : Char) : Bool :=
  isWordPart c && !c.isDigit

def isHexDigit (c : Char) : Bool :=
  c.isDigit || ('a' ≤ c && c ≤ 'f') || ('A' ≤ c && c ≤ 'F')

/-- The length of a character escape in a name, zero where there is none. -/
def escapeLength : List Char → Nat
  | '\\' :: 'u' :: '{' :: rest =>
    let digits := rest.takeWhile isHexDigit
    match rest.drop digits.length with
    | '}' :: _ => if digits.isEmpty then 0 else digits.length + 4
    | _ => 0
  | '\\' :: 'u' :: rest =>
    let digits := rest.take 4
    if digits.length == 4 && digits.all isHexDigit then 6 else 0
  | _ => 0

-- The length of the rest of a name. Escapes are rare, so `skip` passes the inside of one.
def wordLength : Nat → Nat → List Char → Nat
  | count, _, [] => count
  | count, skip + 1, _ :: rest => wordLength (count + 1) skip rest
  | count, 0, c :: rest =>
    if isWordPart c then wordLength (count + 1) 0 rest
    else
      match escapeLength (c :: rest) with
      | 0 => count
      | length + 1 => wordLength (count + 1) length rest

def isDigitPart (c : Char) : Bool :=
  c.isDigit || c == '_'

def digitsLength (chars : List Char) : Nat :=
  (chars.takeWhile isDigitPart).length

def exponentLength : List Char → Nat
  | c :: rest =>
    if c == 'e' || c == 'E' then
      let sign := match rest with
        | '+' :: _ => 1
        | '-' :: _ => 1
        | _ => 0
      let digits := digitsLength (rest.drop sign)
      if digits == 0 then 0 else 1 + sign + digits
    else 0
  | [] => 0

def isRadixLetter (c : Char) : Bool :=
  "xXoObB".toList.contains c

/-- The length of a number, whose first character is a digit or a point. -/
def numberLength : List Char → Nat
  | chars =>
    let radix := match chars with
      | '0' :: letter :: _ => isRadixLetter letter
      | _ => false
    if radix then 2 + ((chars.drop 2).takeWhile fun c => c.isAlphanum || c == '_').length
    else
      let whole := digitsLength chars
      let fraction := match chars.drop whole with
        | '.' :: rest => 1 + digitsLength rest
        | _ => 0
      let exponent := exponentLength (chars.drop (whole + fraction))
      let suffix := match chars.drop (whole + fraction + exponent) with
        | 'n' :: _ => 1
        | _ => 0
      whole + fraction + exponent + suffix

/-- The length of a string up to its closing quote, or `none` where the line or the text ends
first. A line break may be escaped, and a carriage return with a line feed is one line break. -/
def stringLength (quote : Char) : Nat → List Char → Option Nat
  | count, '\\' :: '\r' :: '\n' :: rest => stringLength quote (count + 3) rest
  | count, '\\' :: _ :: rest => stringLength quote (count + 2) rest
  | count, c :: rest =>
    if c = quote then some (count + 1)
    else if c = '\n' || c = '\r' then none
    else stringLength quote (count + 1) rest
  | _, [] => none

-- Operators of several characters, each before its own beginnings.
def longMarks : List (List Char) :=
  (["...", "===", "!==", "**=", "&&=", "||=", "??=", "=>", "==", "!=", "**", "++", "--", "+=",
    "-=", "*=", "/=", "%=", "&&", "||", "??", "?.", "&=", "|=", "^="] : List String).map
      String.toList

def isDigitAt (chars : List Char) : Bool :=
  chars.head?.any Char.isDigit

/-- The length of an operator or bracket. A question mark in front of a decimal point and a digit
stands alone. -/
def markLength (chars : List Char) : Nat :=
  match longMarks.find? fun mark => mark.isPrefixOf chars with
  | some mark => if mark == ['?', '.'] && isDigitAt (chars.drop 2) then 1 else mark.length
  | none => 1

def isMark (c : Char) : Bool :=
  ":;@.,|^&<=>+-*/%?!~()[]\x7b\x7d".toList.contains c

def scan : List Char → TokenSort × Nat
  | [] => (.finish, 0)
  | c :: rest =>
    if isWordStart c then (.word, wordLength 1 0 rest)
    else if c.isDigit || (c == '.' && isDigitAt rest) then (.number, numberLength (c :: rest))
    else if c.toNat == 34 || c.toNat == 39 then
      match stringLength c 1 rest with
      | some length => (.string, length)
      | none => (.stray, 1)
    else if c.toNat == 96 then (.template, 1)
    else if c == '#' && rest.head?.any isWordStart then (.privateName, wordLength 1 0 rest)
    else if isMark c then (.mark, markLength (c :: rest))
    else
      match escapeLength (c :: rest) with
      | 0 => (.stray, 1)
      | length + 1 => (.word, wordLength 1 length rest)

def read (cursor : Cursor) : Token :=
  let gap := triviaLength .blanks 0 cursor.rest
  let start := cursor.forward gap
  let (sort, length) := scan start.rest
  { sort
    text := String.ofList (start.rest.take length)
    start
    stop := start.forward length
    onNewLine := (cursor.rest.take gap).any endsLine }

def isMarkOf (token : Token) (text : String) : Bool :=
  token.sort == .mark && token.text == text

def isWordOf (token : Token) (text : String) : Bool :=
  token.sort == .word && token.text == text

end Token

end SourceAtlas.TypeScript
