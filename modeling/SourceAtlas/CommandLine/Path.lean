import SourceAtlas.Language

/-!
Paths of files, and the language that a path suggests.
-/

namespace SourceAtlas.Path

/-- The parts between slashes, of which there is always one. -/
def split : List Char → List (List Char)
  | [] => [[]]
  | c :: rest =>
    if c = '/' then [] :: split rest
    else
      match split rest with
      | [] => [[c]]
      | first :: others => (c :: first) :: others

/-- The parts of a path that say something: neither empty nor a single point. -/
def components (path : String) : List String :=
  ((split path.toList).map String.ofList).filter fun part => part != "" && part != "."

/-- The last part of a path, unless that leads upwards. -/
def fileName? (path : String) : Option String :=
  (components path).getLast?.filter (· != "..")

/-- What stands behind the last point of a file's name. A point in front of the whole name does not
count. -/
def extension? (path : String) : Option String := do
  let name ← fileName? path
  let behind := name.toList.reverse.takeWhile (· != '.')
  -- There is a point when something is left, and something stands in front of it when more is.
  if behind.length + 1 < name.length then some (String.ofList behind.reverse) else none

def language? (path : String) : Option Language :=
  (extension? path).bind Language.ofExtension?

end SourceAtlas.Path
