/-!
Names that are read without regard to case.

The names read this way are spelled in ASCII, and no character outside ASCII turns, by a change of
case, into letters of such a name: the ones that turn into plain letters at all give a `k` in lower
case, and an `F`, `I` or `S` in upper case, which no name holds. Folding the letters of ASCII
therefore accepts the same texts as folding all letters.
-/

namespace SourceAtlas.Text

def lowercase (text : String) : String :=
  String.ofList (text.toList.map Char.toLower)

def uppercase (text : String) : String :=
  String.ofList (text.toList.map Char.toUpper)

end SourceAtlas.Text
