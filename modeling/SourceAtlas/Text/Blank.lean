/-!
Blank characters, and what is cut along them.

A character is blank when it has the Unicode property White_Space. The property is a closed list
of ranges, so membership is decided by comparing code points. Text is cut in two ways: `trim` drops
blanks from both ends, `words` keeps the maximal runs of characters that are not blank.
-/

namespace SourceAtlas.Text

/-- The ranges of White_Space, first and last code point of each. -/
def blankRanges : List (Nat × Nat) :=
  [(0x9, 0xD), (0x20, 0x20), (0x85, 0x85), (0xA0, 0xA0), (0x1680, 0x1680), (0x2000, 0x200A),
    (0x2028, 0x2029), (0x202F, 0x202F), (0x205F, 0x205F), (0x3000, 0x3000)]

def isBlank (c : Char) : Bool :=
  blankRanges.any fun range => range.1 ≤ c.toNat && c.toNat ≤ range.2

/-- Drop what satisfies `drop` from both ends. -/
def stripEnds (drop : Char → Bool) (chars : List Char) : List Char :=
  ((chars.dropWhile drop).reverse.dropWhile drop).reverse

def trim (text : String) : String :=
  String.ofList (stripEnds isBlank text.toList)

/-- The maximal runs of characters that are not blank, in order. A character that is not blank
starts a run of its own in front of a blank or the end, and joins the run that follows otherwise. -/
def words : List Char → List (List Char)
  | [] => []
  | c :: rest =>
    if isBlank c then words rest
    else
      match rest with
      | [] => [[c]]
      | next :: _ =>
        if isBlank next then [c] :: words rest
        else
          match words rest with
          | [] => [[c]]
          | first :: others => (c :: first) :: others

end SourceAtlas.Text
