import Plumbline.Text.Search

namespace Plumbline.Path

/-- The text of a path cut at its slashes. -/
def pieces (path : String) : List String := (Text.split (· == '/') path.toList).map String.ofList

def isAbsolute (path : String) : Bool := path.toList.head? == some '/'

/-- The steps of a path. Slashes in a row count once, and a dot counts only in front of a relative path. -/
def steps (path : String) : List String :=
  let named := (pieces path).filter fun p => p != "" && p != "."
  if isAbsolute path then "/" :: named
  else if (pieces path).head? == some "." then "." :: named
  else named

/-- The path of `path` seen from the directory `directory`; an absolute path stays as it is. -/
def join (directory path : String) : String :=
  if isAbsolute path then path
  else if directory.isEmpty || directory.toList.getLast? == some '/' then directory ++ path
  else directory ++ "/" ++ path

/-- The last step of a path when it is a name. -/
def fileName? (path : String) : Option String :=
  match (steps path).getLast? with
  | some last => if last = "/" || last = "." || last = ".." then none else some last
  | none => none

def ofSteps (names : List String) : String := "/".intercalate names

/-- Where a path leads from a place, whatever stands there. -/
def follow (place : List String) (path : String) : List String :=
  (pieces path).foldl (fun place piece =>
    if piece = "" || piece = "." then place else if piece = ".." then place.dropLast else place ++ [piece]) place

/-- The steps of a path below another one, when it leads through it. -/
def below? : List String → List String → Option (List String)
  | [], names => some names
  | _ :: _, [] => none
  | a :: lead, b :: names => if a = b then below? lead names else none

/-- A path as seen from `root`, or its own steps when it leads elsewhere. -/
def relative (root path : String) : String := ofSteps ((below? (steps root) (steps path)).getD (steps path))

/-- Drops slashes at the end, but not the one that is the whole path. -/
def trimSlashes (path : String) : String :=
  match Text.dropRightWhile (· == '/') path.toList with
  | [] => if isAbsolute path then "/" else ""
  | rest => String.ofList rest

/-- The pieces of a path without the last ones that lead nowhere. The first piece stays: it says where the path
begins. -/
def dropIdle : List String → List String
  | [] => []
  | first :: rest => first :: (rest.reverse.dropWhile fun piece => piece = "" || piece = ".").reverse

/-- The path that leads to the directory a path is in; none for the top and for the empty path. -/
def parent? (path : String) : Option String :=
  match dropIdle (pieces path) with
  | [] => none
  | [piece] => if piece = "" then none else some ""
  | named => match dropIdle named.dropLast with
    | [""] => some "/"
    | above => some (ofSteps above)

/-- What follows the last dot of a file name, unless the name only begins with it. -/
def extension? (name : String) : Option String :=
  if name != ".." && (name.toList.drop 1).contains '.' then
    some (String.ofList (name.toList.reverse.takeWhile (· != '.')).reverse)
  else none

end Plumbline.Path
