import Plumbline.Files.FileSystem
import Plumbline.Glob.Expression
import Plumbline.Issue

namespace Plumbline

/-- Why a check cannot be carried out. -/
inductive CheckError where
  | rootMissing (root : String)
  | invalidPattern (pattern component : String) (fault : Glob.Fault)
  /-- A component of a pattern nests too deep or grows too large. -/
  | deepPattern (component : List Glob.Token)

def CheckError.message : CheckError → String
  | .rootMissing root => "run root " ++ root ++ " is not a directory"
  | .invalidPattern pattern component fault =>
    "invalid pattern \x60" ++ pattern ++ "\x60: error parsing glob '" ++ component ++ "': " ++ fault.message
  | .deepPattern component =>
    "regex compilation shouldn't fail: Error \x7b glob: Some(" ++ Text.quoted (Glob.expression component) ++
      "), kind: Regex(\"" ++ Glob.refusal component ++ "\") \x7d"

/-- A pattern for the last components of a path, one glob for each. -/
structure PathPattern where
  globs : List (List Glob.Token)

namespace PathPattern

/-- Strips every leading dot with a slash. -/
def stripDots : List Char → List Char
  | '.' :: '/' :: s => stripDots s
  | s => s

def components (pattern : String) : List String :=
  ((Text.fields (· == '/') (stripDots pattern.toList))).map String.ofList

def parse (pattern : String) : Except CheckError PathPattern := do
  let globs ← (components pattern).mapM fun part =>
    match Glob.parse part.toList with
    | .ok tokens => if Glob.isRefused tokens then .error (.deepPattern tokens) else .ok tokens
    | .error fault => .error (.invalidPattern pattern part fault)
  return ⟨globs⟩

def parseAll (patterns : List String) : Except CheckError (List PathPattern) := patterns.mapM parse

/-- Whether the globs match the last names of a path, one by one. -/
def isMatch (pattern : PathPattern) (names : List String) : Bool :=
  !pattern.globs.isEmpty && pattern.globs.length ≤ names.length &&
    (pattern.globs.zip (names.drop (names.length - pattern.globs.length))).all fun (glob, name) =>
      Glob.isMatch glob name

end PathPattern

/-- A file found by a walk: its path below the root, and its text if it has one. -/
structure FoundFile where
  names : List String
  text : Option String

namespace FoundFile

def path (file : FoundFile) : String := Path.ofSteps file.names

def name (file : FoundFile) : String := file.names.getLastD ""

end FoundFile

/-- A file system and the directory in it that checks run against. -/
structure Site where
  files : FileSystem
  root : String

namespace Site

/-- Whether the system lists the directory of these names below the root: it refuses paths that are too long. -/
def opens (site : Site) (names : List String) : Bool :=
  (names.foldl Path.join site.root).utf8ByteSize ≤ FileSystem.longestPath

/-- Everything a walk of the root passes, in order. What the system refuses to list is passed over. -/
def walk (site : Site) : Except CheckError (List (List String × Node)) :=
  match site.files.node? site.root with
  | some (.directory entries) => .ok (Node.walkInto site.opens [] (Node.directory entries).sorted)
  | _ => .error (.rootMissing site.root)

def walkFiles (site : Site) : Except CheckError (List FoundFile) := do
  return (← site.walk).filterMap fun
    | (names, .file text) => some ⟨names, text⟩
    | (_, .directory _) => none

def walkDirectories (site : Site) : Except CheckError (List (List String)) := do
  return (← site.walk).filterMap fun (names, node) => if node.isDirectory then some names else none

/-- The files that match any of the patterns, in the order of the walk. A bad pattern is found before a bad root. -/
def filesMatching (site : Site) (patterns : List String) : Except CheckError (List FoundFile) := do
  let compiled ← PathPattern.parseAll patterns
  return (← site.walkFiles).filter fun file => compiled.any (·.isMatch file.names)

/-- The first file that matches a pattern. -/
def findFile? (site : Site) (pattern : String) : Except CheckError (Option FoundFile) := do
  return (← site.filesMatching [pattern]).head?

/-- The texts of the files that match any of the patterns. -/
def textsMatching (site : Site) (patterns : List String) : Except CheckError (List String) := do
  return (← site.filesMatching patterns).filterMap (·.text)

/-- The path that leads from the working directory to a path below the root. -/
def locate (site : Site) (path : String) : String := Path.join site.root path

def isDirectoryAt (site : Site) (path : String) : Bool := site.files.isDirectory (site.locate path)

def isFileAt (site : Site) (path : String) : Bool := site.files.isFile (site.locate path)

def existsAt (site : Site) (path : String) : Bool := site.files.pathExists (site.locate path)

/-- A path below the root as reports show it. -/
def shown (site : Site) (path : String) : String := Path.relative site.root (site.locate path)

/-- The name of the directory that something with these names is in, which may be the root itself. -/
def parentName? (site : Site) (names : List String) : Option String :=
  match names.dropLast.getLast? with
  | some name => some name
  | none => if names.isEmpty then none else Path.fileName? site.root

def findDirectory? (site : Site) (name : String) : Except CheckError (Option (List String)) := do
  return (← site.walkDirectories).find? (·.getLast? == some name)

end Site

end Plumbline
