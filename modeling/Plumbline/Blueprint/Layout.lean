import Plumbline.Distinct
import Plumbline.Json.Record
import Plumbline.Text.Lines

namespace Plumbline

/-- What a layout declares under a name. -/
inductive LayoutNode where
  | file
  | directory (entries : List (String × LayoutNode))

/-- A declared directory layout: what stands at its top, in increasing order of the names. -/
structure Layout where
  entries : List (String × LayoutNode)

namespace LayoutNode

instance : Inhabited LayoutNode := ⟨file⟩

/-- Stores a node under a name. A directory that is there already keeps what is in it. -/
def store (name : String) (node : LayoutNode) (entries : List (String × LayoutNode)) : List (String × LayoutNode) :=
  match node, entries.lookup name with
  | .directory _, some (.directory _) => entries
  | _, _ => NameMap.insertEntry name node entries

/-- Stores a node in the directory a path leads to. Steps that are no directory are passed over. -/
def storeAt (name : String) (node : LayoutNode) :
    List String → List (String × LayoutNode) → List (String × LayoutNode)
  | [], entries => store name node entries
  | step :: path, entries => match entries.lookup step with
    | some (.directory inner) => NameMap.insertEntry step (.directory (storeAt name node path inner)) entries
    | _ => storeAt name node path entries

mutual
/-- The paths of the entries of a directory, where `lead` leads to it. A directory ends in a slash and comes right
before what is in it. -/
def pathsFrom (lead : String) : List (String × LayoutNode) → List String
  | [] => []
  | (name, node) :: rest => pathsOf (lead ++ name) node ++ pathsFrom lead rest

def pathsOf (path : String) : LayoutNode → List String
  | .file => [path]
  | .directory entries => (path ++ "/") :: pathsFrom (path ++ "/") entries
end

/-- Whether entries hold a file of this name. -/
def holdsFile (file : String) (entries : List (String × LayoutNode)) : Bool :=
  match entries.lookup file with
  | some .file => true
  | _ => false

mutual
/-- The names of the directories that hold a file of this name, with repetitions, outer ones first. -/
def holdersFrom (file : String) : List (String × LayoutNode) → List String
  | [] => []
  | (name, node) :: rest => holdersOf file name node ++ holdersFrom file rest

def holdersOf (file name : String) : LayoutNode → List String
  | .file => []
  | .directory entries => (if holdsFile file entries then [name] else []) ++ holdersFrom file entries
end

mutual
/-- A file as null, a directory as an object. -/
def toJson : LayoutNode → Json
  | .file => .null
  | .directory entries => .object (membersOf entries)

def membersOf : List (String × LayoutNode) → List (String × Json)
  | [] => []
  | (name, node) :: rest => (name, node.toJson) :: membersOf rest
end

mutual
def ofJson? : Json → Option LayoutNode
  | .null => some .file
  | .object members => (entriesOfMembers? [] members).map .directory
  | _ => none

/-- Reads members one after another onto the entries read before; of one name the last stays. -/
def entriesOfMembers? (entries : List (String × LayoutNode)) :
    List (String × Json) → Option (List (String × LayoutNode))
  | [] => some entries
  | (name, v) :: rest => match ofJson? v with
    | some node => entriesOfMembers? (NameMap.insertEntry name node entries) rest
    | none => none
end

end LayoutNode

namespace Layout

def empty : Layout := ⟨[]⟩

def isEmpty (layout : Layout) : Bool := layout.entries.isEmpty

/-- Every path of the layout. Directories end in a slash. -/
def paths (layout : Layout) : List String := LayoutNode.pathsFrom "" layout.entries

/-- The names of the directories that hold a file of this name. -/
def holders (layout : Layout) (file : String) : List String :=
  Distinct.ofList (LayoutNode.holdersFrom file layout.entries)

def toJson (layout : Layout) : Json := .object (LayoutNode.membersOf layout.entries)

def ofJson? : Json → Option Layout
  | .object members => (LayoutNode.entriesOfMembers? [] members).map .mk
  | _ => none

end Layout

namespace Diagram

def isGlyph (c : Char) : Bool := c == '├' || c == '└' || c == '│' || c == '─' || Text.isBlank c

/-- Whether a text looks like a diagram. -/
def looksLike (text : String) : Bool :=
  ["├──", "└──", "│"].any fun glyph => Text.contains glyph.toList text.toList

/-- Files that need no extension. -/
def bareFiles : List String := ["README", "LICENSE", "Dockerfile", "Makefile"]

/-- Strips a remark in parentheses at the end. -/
def withoutRemark (s : List Char) : List Char :=
  match s.getLast? with
  | some ')' =>
    if s.contains '(' then Text.trimEnd (s.takeWhile (· != '(')) else s
  | _ => s

/-- Strips a comment. -/
def withoutComment (s : List Char) : List Char :=
  if s.contains '#' then Text.trimEnd (s.takeWhile (· != '#')) else s

def isNameChar (c : Char) : Bool := Text.isAlphanumeric c || c == '_' || c == '-' || c == '.' || c == '/'

/-- The name that an entry shows. -/
def nameOf (entry : List Char) : List Char := (withoutComment (withoutRemark entry)).filter isNameChar

/-- A directory is named by letters and digits beside dots, underscores and dashes, or hidden by a dot. -/
def isDirectoryName (name : List Char) : Bool :=
  let core := name.filter fun c => c != '.' && c != '_' && c != '-'
  !core.isEmpty && core.all Text.isAlphanumeric || name.head? == some '.'

/-- A file has a dot in its name, or one of the names that need none. -/
def isFileName (name : String) : Bool := name.toList.contains '.' && name.utf8ByteSize < 100 || bareFiles.contains name

/-- The layout drawn so far, and the directories that lead to the last line. -/
structure Drawing where
  layout : Layout
  path : List String

def Drawing.blank : Drawing := ⟨.empty, []⟩

/-- Adds a node at the end of the path. -/
def Drawing.add (drawing : Drawing) (name : String) (node : LayoutNode) : Layout :=
  ⟨LayoutNode.storeAt name node drawing.path drawing.layout.entries⟩

/-- Draws the entry of a name that stands at a level. -/
def Drawing.enter (drawing : Drawing) (level : Nat) (name : List Char) : Drawing :=
  let drawing := { drawing with path := drawing.path.take level }
  if name.getLast? = some '/' then
    let bare := Text.dropRightWhile (· == '/') name
    if isDirectoryName bare then
      ⟨drawing.add (String.ofList bare) (.directory []), drawing.path ++ [String.ofList bare]⟩
    else drawing
  else if isFileName (String.ofList name) then { drawing with layout := drawing.add (String.ofList name) .file }
  else drawing

/-- How many characters a level is wide. -/
def levelWidth : Nat := 4

def isComment (entry : List Char) : Bool := entry.head? == some '#' || Text.startsWith ['/', '/'] entry

/-- Draws one line. The level of its entry shows in the width of what stands before it. -/
def Drawing.step (drawing : Drawing) (line : List Char) : Drawing :=
  let lead := (Text.trimEnd line).takeWhile isGlyph
  let entry := Text.trim ((Text.trimEnd line).drop lead.length)
  if entry.isEmpty || isComment entry || (nameOf entry).isEmpty then drawing
  else drawing.enter (lead.length / levelWidth) (nameOf entry)

/-- The layout that a diagram draws. -/
def parse (text : String) : Layout := ((Text.lines text.toList).foldl Drawing.step .blank).layout

end Diagram

end Plumbline
