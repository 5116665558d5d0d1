import SourceAtlas.CommandLine.Run

/-!
The program: the command line with the operating system for its host.
-/

namespace SourceAtlas.CommandLine

def fileError : IO.Error → FileError
  | .noFileOrDirectory _ _ _ => .missing
  | .inappropriateType _ _ _ => .directory
  | .resourceExhausted _ 28 _ => .noRoom
  | error => .refused (toString error)

def systemHost : Host IO where
  Handle := IO.FS.Handle
  readFile path := do
    try return .ok (← IO.FS.readBinFile path)
    catch error => return .error (fileError error)
  createFile path := do
    try return .ok (← IO.FS.Handle.mk path .write)
    catch error => return .error (fileError error)
  writeFile handle text := do
    try
      handle.putStr text
      return .ok (← handle.flush)
    catch error => return .error (fileError error)
  readInput := do (← IO.getStdin).readBinToEnd
  print text := do
    let output ← IO.getStdout
    output.putStr text
    output.flush
  warn text := do (← IO.getStderr).putStr text
  environment? name := IO.getEnv name
  clock := IO.monoMsNow

end SourceAtlas.CommandLine

def main (words : List String) : IO UInt32 := do
  return UInt32.ofNat (← SourceAtlas.CommandLine.run SourceAtlas.CommandLine.systemHost words)
