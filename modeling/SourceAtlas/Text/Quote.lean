import SourceAtlas.Text.Blank

/-!
String literals of a source text, without their quotes.
-/

namespace SourceAtlas.Text

def isQuote (c : Char) : Bool :=
  c.toNat == 34 || c.toNat == 39 || c.toNat == 96

def unquote (text : String) : String :=
  String.ofList (stripEnds isQuote text.toList)

/-- The name in a module position, where blanks around the literal do not count. -/
def unquoteTrimmed (text : String) : String :=
  unquote (trim text)

end SourceAtlas.Text
