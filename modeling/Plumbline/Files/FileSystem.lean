import Plumbline.Files.Node
import Plumbline.Files.Path

namespace Plumbline

/-- Why a file system refuses a request. -/
inductive FileError where
  | notFound
  | alreadyExists
  | notDirectory
  | isDirectory
  | nameTooLong
  | nulInName
  | notText
deriving DecidableEq, Repr

def FileError.message : FileError → String
  | .notFound => "No such file or directory (os error 2)"
  | .alreadyExists => "File exists (os error 17)"
  | .notDirectory => "Not a directory (os error 20)"
  | .isDirectory => "Is a directory (os error 21)"
  | .nameTooLong => "File name too long (os error 36)"
  | .nulInName => "file name contained an unexpected NUL byte"
  | .notText => "stream did not contain valid UTF-8"

/-- All files, and the path of names that leads to the working directory. -/
structure FileSystem where
  top : Node
  working : List String

namespace FileSystem

/-- Names have at most this many bytes. -/
def longestName : Nat := 255

/-- Paths have at most this many bytes. -/
def longestPath : Nat := 4095

/-- Follows one piece of a path from a place. An empty piece and a dot stay, two dots go up. All ask for a directory. -/
def step (files : FileSystem) (place : List String) (piece : String) : Except FileError (List String) :=
  match files.top.find? place with
  | none => .error .notFound
  | some (.file _) => .error .notDirectory
  | some (.directory entries) =>
    if piece = "" || piece = "." then .ok place
    else if piece = ".." then .ok place.dropLast
    else if longestName < piece.utf8ByteSize then .error .nameTooLong
    else if (entries.lookup piece).isSome then .ok (place ++ [piece])
    else .error .notFound

/-- Where the path begins. -/
def origin (files : FileSystem) (path : String) : List String := if Path.isAbsolute path then [] else files.working

/-- The place a path leads to. -/
def locate (files : FileSystem) (path : String) : Except FileError (List String) :=
  if path.contains '\x00' then .error .nulInName
  else if path.isEmpty then .error .notFound
  else if longestPath < path.utf8ByteSize then .error .nameTooLong
  else (Path.pieces path).foldlM files.step (files.origin path)

def node? (files : FileSystem) (path : String) : Option Node :=
  match files.locate path with
  | .ok place => files.top.find? place
  | .error _ => none

def pathExists (files : FileSystem) (path : String) : Bool := (files.node? path).isSome

def isDirectory (files : FileSystem) (path : String) : Bool := (files.node? path).any Node.isDirectory

def isFile (files : FileSystem) (path : String) : Bool := (files.node? path).any Node.isFile

/-- The text of a file. -/
def read (files : FileSystem) (path : String) : Except FileError String :=
  match files.locate path with
  | .error e => .error e
  | .ok place => match files.top.find? place with
    | some (.file (some text)) => .ok text
    | some (.file none) => .error .notText
    | some (.directory _) => .error .isDirectory
    | none => .error .notFound

def withNode (files : FileSystem) (place : List String) (node : Node) : FileSystem :=
  { files with top := files.top.place place node }

/-- The place of the directory that a path's last piece belongs to, and that piece. -/
def locateParent (files : FileSystem) (path : String) : Except FileError (List String × String) :=
  if path.isEmpty then .error .notFound
  else do
    let place ← (Path.pieces path).dropLast.foldlM files.step (files.origin path)
    return (place, (Path.pieces path).getLastD "")

/-- Writes a new file, whose path must not end in a slash. -/
def create (files : FileSystem) (path text : String) : Except FileError FileSystem := do
  let (place, name) ← files.locateParent (Path.trimSlashes path)
  match files.top.find? place with
  | some (.directory _) =>
    if path.toList.getLast? = some '/' then .error .isDirectory
    else .ok (files.withNode (place ++ [name]) (.file (some text)))
  | _ => .error .notDirectory

/-- Writes a file, in the place of an older one. -/
def write (files : FileSystem) (path text : String) : Except FileError FileSystem :=
  match files.locate path with
  | .ok place => match files.top.find? place with
    | some (.directory _) => .error .isDirectory
    | _ => .ok (files.withNode place (.file (some text)))
  | .error .notFound => files.create path text
  | .error .notDirectory => files.create path text
  | .error e => .error e

/-- Makes one directory, which must be new in a directory that is there. -/
def makeDirectory (files : FileSystem) (path : String) : Except FileError FileSystem :=
  match files.locate (Path.trimSlashes path) with
  | .ok _ => .error .alreadyExists
  | .error .notFound => do
    let (place, name) ← files.locateParent (Path.trimSlashes path)
    match files.top.find? place with
    | some (.directory _) => .ok (files.withNode (place ++ [name]) (.directory []))
    | _ => .error .notDirectory
  | .error e => .error e

/-- Makes a directory and those it is in, as far as they are missing. `fuel` bounds the steps of the path. -/
def makeDirectories : Nat → FileSystem → String → Except FileError FileSystem
  | 0, files, _ => .ok files
  | fuel + 1, files, path =>
    if path.isEmpty then .ok files
    else match files.makeDirectory path with
      | .ok made => .ok made
      | .error .notFound => match Path.parent? path with
        | none => .error .notFound
        | some above => do
          let files ← makeDirectories fuel files above
          match files.makeDirectory path with
          | .ok made => .ok made
          | .error e => if files.isDirectory path then .ok files else .error e
      | .error e => if files.isDirectory path then .ok files else .error e

/-- Makes a directory and those it is in, as far as they are missing. -/
def makeAll (files : FileSystem) (path : String) : Except FileError FileSystem :=
  makeDirectories (path.length + 1) files path

/-- Puts what is known to stand at a path there. A directory keeps what is in it. -/
def put (files : FileSystem) (path : String) (node : Node) : FileSystem :=
  let place := Path.follow (files.origin path) path
  match node, files.top.find? place with
  | .directory _, some (.directory _) => files
  | _, _ => files.withNode place node

/-- The texts of the files that are not as they were before, with the paths from the top. -/
def changesSince (before after : FileSystem) : List (List String × String) :=
  (Node.filesOf [] after.top).filterMap fun (place, text) => do
    let text ← text
    match before.top.find? place with
    | some (.file (some old)) => if old = text then none else some (place, text)
    | _ => some (place, text)

end FileSystem

end Plumbline
