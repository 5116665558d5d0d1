/-!
JSON values, and how they are written.

A number is an integer with a number of decimal places, so that a value that is not whole is still
a value. Objects keep their entries in order.
-/

namespace SourceAtlas

inductive Json where
  | null
  | bool (value : Bool)
  | number (digits : Int) (places : Nat)
  | string (text : String)
  | array (items : List Json)
  | object (entries : List (String × Json))
  deriving Inhabited

namespace Json

def ofNat (value : Nat) : Json := .number value 0

def ofStrings (texts : List String) : Json := .array (texts.map .string)

def hexDigit (value : Nat) : Char :=
  if value < 10 then Char.ofNat (value + 48) else Char.ofNat (value + 87)

/-- A character inside a string. Control characters are written as escapes, of which some are
short, and all others stand for themselves. -/
def escape (c : Char) : List Char :=
  if c = '"' then ['\\', '"']
  else if c = '\\' then ['\\', '\\']
  else if c = '\n' then ['\\', 'n']
  else if c = '\r' then ['\\', 'r']
  else if c = '\t' then ['\\', 't']
  else if c.toNat = 8 then ['\\', 'b']
  else if c.toNat = 12 then ['\\', 'f']
  else if c.toNat < 32 then
    ['\\', 'u', '0', '0', hexDigit (c.toNat / 16), hexDigit (c.toNat % 16)]
  else [c]

def quoted (text : String) : String :=
  "\"" ++ String.ofList (text.toList.flatMap escape) ++ "\""

/-- An integer with its decimal point moved to the left. -/
def decimal (digits : Int) (places : Nat) : String :=
  if places = 0 then toString digits
  else
    let scale := Nat.pow 10 places
    let fraction := toString (digits.natAbs % scale)
    (if digits < 0 then "-" else "") ++ toString (digits.natAbs / scale) ++ "." ++
      String.ofList (List.replicate (places - fraction.length) '0') ++ fraction

/-- Whether a value is spread over lines, and how its parts are set off then. -/
inductive Layout where
  | compact
  | pretty

namespace Layout

/-- What stands in front of a part at some nesting depth. -/
def lineBreak : Layout → Nat → String
  | .compact, _ => ""
  | .pretty, depth => "\n" ++ String.ofList (List.replicate (2 * depth) ' ')

def colon : Layout → String
  | .compact => ":"
  | .pretty => ": "

/-- Parts between brackets, with nothing in between where there are none. -/
def enclose (layout : Layout) (depth : Nat) (opening closing : String) (parts : List String) :
    String :=
  if parts.isEmpty then opening ++ closing
  else
    opening ++ ",".intercalate (parts.map (layout.lineBreak (depth + 1) ++ ·)) ++
      layout.lineBreak depth ++ closing

end Layout

mutual

def renderAt (layout : Layout) (depth : Nat) : Json → String
  | .null => "null"
  | .bool true => "true"
  | .bool false => "false"
  | .number digits places => decimal digits places
  | .string text => quoted text
  | .array items => layout.enclose depth "[" "]" (renderItems layout (depth + 1) items)
  | .object entries =>
    layout.enclose depth "\x7b" "\x7d" (renderEntries layout (depth + 1) entries)

def renderItems (layout : Layout) (depth : Nat) : List Json → List String
  | [] => []
  | item :: rest => renderAt layout depth item :: renderItems layout depth rest

def renderEntries (layout : Layout) (depth : Nat) : List (String × Json) → List String
  | [] => []
  | (key, value) :: rest =>
    (quoted key ++ layout.colon ++ renderAt layout depth value) :: renderEntries layout depth rest

end

def render (layout : Layout) (value : Json) : String :=
  renderAt layout 0 value

end Json

end SourceAtlas
