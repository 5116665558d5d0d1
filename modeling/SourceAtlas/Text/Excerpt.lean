/-!
The beginning of a long text, for error reports.
-/

namespace SourceAtlas.Text

def excerptLimit : Nat := 200

/-- The text itself when it is short, otherwise its beginning and three dots. -/
def excerpt (text : String) : String :=
  let chars := text.toList
  if chars.length ≤ excerptLimit then text
  else String.ofList (chars.take excerptLimit ++ "...".toList)

end SourceAtlas.Text
