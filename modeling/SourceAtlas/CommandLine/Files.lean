import SourceAtlas.CommandLine.Path

/-!
Files and directories, as far as the program can see them.

A file system is a finite list of files with paths relative to one directory, and the directories
that are there beside those that a file needs. It answers like a real one: a path may be missing,
may be a directory where a file is wanted, or may lead through a file. A file is written in two
steps, as it is opened before anything is put into it, and opening empties it.
-/

namespace SourceAtlas.CommandLine

inductive FileError where
  | missing
  | directory
  | notDirectory
  /-- The file is there and does not hold text. -/
  | notText
  /-- There is no room for what was to be written. -/
  | noRoom
  /-- Any other failure, in its own words. -/
  | refused (reason : String)
  deriving DecidableEq, Repr

def FileError.message : FileError → String
  | .missing => "No such file or directory (os error 2)"
  | .directory => "Is a directory (os error 21)"
  | .notDirectory => "Not a directory (os error 20)"
  | .notText => "stream did not contain valid UTF-8"
  | .noRoom => "No space left on device (os error 28)"
  | .refused reason => reason

/-- A file's path is the list of its parts. -/
structure Files where
  entries : List (List String × ByteArray)

namespace Files

def empty : Files := ⟨[]⟩

def get? (files : Files) (path : List String) : Option ByteArray :=
  files.entries.lookup path

def put (files : Files) (path : List String) (content : ByteArray) : Files :=
  ⟨(path, content) :: files.entries.filter fun entry => entry.1 != path⟩

end Files

/-- Files, and directories that may have no file in them. -/
structure FileSystem where
  files : Files
  directories : List (List String)

namespace FileSystem

/-- Whether there is a directory of this path: one of its own, or one that something lies in. -/
def isDirectory (system : FileSystem) (path : List String) : Bool :=
  path.isEmpty || system.directories.any path.isPrefixOf ||
    system.files.entries.any fun entry => path.isPrefixOf entry.1 && path != entry.1

/-- Follow a path from a directory, going up where it says so. Above the top there is nothing but
directories. -/
def resolve (system : FileSystem) : List String → List String → Except FileError (List String)
  | place, [] => .ok place
  | place, part :: rest =>
    if (system.files.get? place).isSome then .error .notDirectory
    else if !system.isDirectory place then .error .missing
    else if part == ".." then resolve system place.dropLast rest
    else resolve system (place ++ [part]) rest

/-- The place a path leads to. A slash at the end wants a directory. -/
def locate (system : FileSystem) (path : String) : Except FileError (List String) := do
  let place ← system.resolve [] (Path.components path)
  if path.toList.getLast? == some '/' && (system.files.get? place).isSome then .error .notDirectory
  else return place

def read (system : FileSystem) (path : String) : Except FileError ByteArray := do
  let place ← system.locate path
  match system.files.get? place with
  | some content => return content
  | none => if system.isDirectory place then .error .directory else .error .missing

def put (system : FileSystem) (place : List String) (content : ByteArray) : FileSystem :=
  { system with files := system.files.put place content }

/-- Open a file for writing: it is empty then, whatever it held before. Its directory must exist, and
nothing is changed where that fails. -/
def create (system : FileSystem) (path : String) : Except FileError (List String × FileSystem) := do
  let place ← system.locate path
  if system.isDirectory place || path.toList.getLast? == some '/' then .error .directory
  else return (place, system.put place ByteArray.empty)

/-- Put more behind what a file holds. -/
def append (system : FileSystem) (place : List String) (content : ByteArray) : FileSystem :=
  system.put place ((system.files.get? place).getD ByteArray.empty ++ content)

end FileSystem

end SourceAtlas.CommandLine
