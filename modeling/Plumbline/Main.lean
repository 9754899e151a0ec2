import Plumbline.CommandLine.Generate
import Plumbline.CommandLine.Validate
import Std.Time.DateTime.Timestamp

namespace Plumbline.CommandLine

/-- What stands at a path, as far as it can be read. -/
def look (path : String) : IO (Option Node) := do
  try
    return some (.file (String.fromUTF8? (← IO.FS.readBinFile path)))
  catch
    | .inappropriateType .. => return some (.directory [])
    | _ => return none

/-- Takes up what stands at a path. -/
def explore (files : FileSystem) (path : String) : IO FileSystem := do
  return ((← look path).map (files.put path)).getD files

/-- The lines of a stream that is no terminal. -/
partial def listing (input : IO.FS.Stream) (found : Array String) : IO (Array String) := do
  if ← input.isTty then return found
  let line ← input.getLine
  if line.isEmpty then return found
  listing input (found.push (line.dropEndWhile (· == '\n')).toString)

/-- Writes the files that a command has changed. -/
def save (before after : FileSystem) : IO Unit :=
  for (place, text) in before.changesSince after do
    IO.FS.createDirAll ("/" ++ Path.ofSteps place.dropLast)
    IO.FS.writeFile ("/" ++ Path.ofSteps place) text

def finish (before : FileSystem) (done : Exit) : IO UInt32 := do
  save before done.files
  IO.print done.output
  IO.eprint done.complaint
  return done.code.toUInt32

/-- Paths that a command looks at without being told. -/
def usualPaths : List String := ["validation_config.toml", "agv-outputs"]

/-- The file system as far as paths and arguments tell of it. An argument may name a file after an equals sign. -/
def known (paths : List String) (arguments : List String) : IO FileSystem := do
  let place := Path.follow [] (toString (← IO.FS.realPath "."))
  let empty : FileSystem := ⟨(Node.directory []).place place (.directory []), place⟩
  let named := arguments.flatMap fun argument => argument :: (Arguments.splitLong argument.toList).2.toList
  (usualPaths ++ paths ++ named).foldlM explore empty

/-- The first argument names the command. A validator sees the files and directories that are listed on standard input,
one path a line. -/
def dispatch (arguments : List String) : IO UInt32 := do
  match arguments with
  | "generate" :: given =>
    let files ← known [] given
    finish files (Generate.run files (.ofUnix (← Std.Time.Timestamp.now).toSecondsSinceUnixEpoch.toInt) given)
  | "validate" :: given =>
    let files ← known (← listing (← IO.getStdin) #[]).toList given
    finish files (Validate.run files given)
  | _ =>
    IO.eprint (Generate.usage ++ Validate.usage)
    return 2

end Plumbline.CommandLine

def main (arguments : List String) : IO UInt32 := Plumbline.CommandLine.dispatch arguments
