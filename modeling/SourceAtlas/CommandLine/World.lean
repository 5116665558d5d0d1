import SourceAtlas.CommandLine.Run

/-!
Worlds: everything around a run of the program, as a value.

Beside files there are the devices that every system has under fixed names: standard output and
standard error under names of their own, one that takes everything and keeps nothing, and one that
is always full.
-/

namespace SourceAtlas.CommandLine

structure World where
  files : Files
  input : ByteArray
  «variables» : List (String × String) := []
  output : String := ""
  warnings : String := ""
  /-- Directories that may have no file in them. -/
  directories : List (List String) := []
  /-- How many bytes can still be put into files, where there is a limit. -/
  room : Option Nat := none

/-- What a path that is opened for writing can lead to. -/
inductive Sink where
  | file (place : List String)
  | output
  | warnings
  | nothing
  | full
  deriving DecidableEq, Repr

namespace Sink

def device? : String → Option Sink
  | "/dev/stdout" => some .output
  | "/dev/stderr" => some .warnings
  | "/dev/null" => some .nothing
  | "/dev/full" => some .full
  | _ => none

def place? : Sink → Option (List String)
  | .file place => some place
  | _ => none

end Sink

namespace World

def system (world : World) : FileSystem :=
  { files := world.files, directories := world.directories }

def readFrom (world : World) : String → Except FileError ByteArray
  | "/dev/stdin" => .ok world.input
  | "/dev/null" => .ok ByteArray.empty
  | path => world.system.read path

def create (world : World) (path : String) : Except FileError Sink × World :=
  match Sink.device? path with
  | some device => (.ok device, world)
  | none =>
    match world.system.create path with
    | .error error => (.error error, world)
    | .ok (place, opened) => (.ok (.file place), { world with files := opened.files })

def append (world : World) (place : List String) (content : ByteArray) : World :=
  { world with
    files := (world.system.append place content).files
    room := world.room.map (· - content.size) }

-- Where the room does not suffice, as much is written as there is room for.
def write (world : World) (text : String) : Sink → Except FileError Unit × World
  | .file place =>
    match world.room.filter (· < text.utf8ByteSize) with
    | some room => (.error .noRoom, world.append place (text.toUTF8.extract 0 room))
    | none => (.ok (), world.append place text.toUTF8)
  | .output => (.ok (), { world with output := world.output ++ text })
  | .warnings => (.ok (), { world with warnings := world.warnings ++ text })
  | .nothing => (.ok (), world)
  | .full => (if text.isEmpty then .ok () else .error .noRoom, world)

/-- The host that acts on a world. Its clock stands still. -/
def host : Host (StateM World) where
  Handle := Sink
  readFile path world := (world.readFrom path, world)
  createFile path world := world.create path
  writeFile sink text world := world.write text sink
  readInput world := (world.input, world)
  print text world := ((), { world with output := world.output ++ text })
  warn text world := ((), { world with warnings := world.warnings ++ text })
  environment? name world := (world.«variables».lookup name, world)
  clock world := (0, world)

def run (words : List String) (world : World) : Nat × World :=
  (CommandLine.run host words).run world

end World

end SourceAtlas.CommandLine
