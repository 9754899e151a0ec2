import Plumbline.NameMap

namespace Plumbline

/-- A file or a directory. Of a file whose bytes are no text nothing but its presence is known. -/
inductive Node where
  | file (text : Option String)
  | directory (entries : List (String × Node))

namespace Node

instance : Inhabited Node := ⟨.file none⟩

def isDirectory : Node → Bool
  | .directory _ => true
  | .file _ => false

def isFile (node : Node) : Bool := !node.isDirectory

/-- What a directory holds under a name. -/
def child? (name : String) : Node → Option Node
  | .directory entries => entries.lookup name
  | .file _ => none

/-- What a path of names leads to. -/
def find? : List String → Node → Option Node
  | [], node => some node
  | name :: path, node => (node.child? name).bind (find? path)

/-- Puts a node at the end of a path of names. Directories on the way are made, and files in the way give way. -/
def place : Node → List String → Node → Node
  | _, [], new => new
  | .directory entries, name :: path, new =>
    .directory (NameMap.insertEntry name (place ((entries.lookup name).getD (.directory [])) path new) entries)
  | .file _, name :: path, new => .directory [(name, place (.directory []) path new)]

mutual
/-- All files among the entries of a directory, each with the path that leads to it. -/
def filesAmong (lead : List String) : List (String × Node) → List (List String × Option String)
  | [] => []
  | (name, node) :: rest => filesOf (lead ++ [name]) node ++ filesAmong lead rest

def filesOf (lead : List String) : Node → List (List String × Option String)
  | .file text => [(lead, text)]
  | .directory entries => filesAmong lead entries
end

/-- Directories a walk does not enter. -/
def skippedNames : List String := [".git", "node_modules", "__pycache__", ".venv", "venv", "target"]

def isSkipped (name : String) : Node → Bool
  | .directory _ => skippedNames.contains name
  | .file _ => false

/-- Puts an entry before the first whose name is not less than its own. -/
def insertByName (entry : String × Node) : List (String × Node) → List (String × Node)
  | [] => [entry]
  | other :: rest => if other.1 < entry.1 then other :: insertByName entry rest else entry :: other :: rest

mutual
/-- A node with the entries of every directory in the order of their names. -/
def sorted : Node → Node
  | .file text => .file text
  | .directory entries => .directory (sortedAmong entries)

def sortedAmong : List (String × Node) → List (String × Node)
  | [] => []
  | (name, node) :: rest => insertByName (name, node.sorted) (sortedAmong rest)
end

mutual
/-- Everything in the entries of a directory, each with the path that leads to it. A directory comes right before what
is in it. Nothing comes from a skipped one, and of one that does not open only itself. -/
def walk (opens : List String → Bool) (lead : List String) : List (String × Node) → List (List String × Node)
  | [] => []
  | (name, node) :: rest =>
    (if isSkipped name node then [] else (lead ++ [name], node) :: walkInto opens (lead ++ [name]) node) ++
      walk opens lead rest

def walkInto (opens : List String → Bool) (lead : List String) : Node → List (List String × Node)
  | .directory entries => if opens lead then walk opens lead entries else []
  | .file _ => []
end

end Node

end Plumbline
