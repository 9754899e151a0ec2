import Plumbline.Blueprint.Layout

namespace Plumbline.Applications

open Text

/-- Applications that are recognized by their names alone. -/
def wellKnown : List String := ["core", "users", "customers", "operations", "finance"]

/-- Reads a word between two of the given marks. -/
def readMarked (isMark : Char → Bool) : Reader String := fun _ s => do
  let (c :: s) := s | none
  if !isMark c then none
  let (word, s) ← some? isWord s
  let (d :: s) := s | none
  if isMark d then some (String.ofList word, s) else none

/-- What stands in the first square brackets that are not empty. -/
def firstBrackets? : List Char → Option (List Char)
  | [] => none
  | c :: s =>
    let inside := s.takeWhile (· != ']')
    if c = '[' && !inside.isEmpty && inside.length < s.length then some inside else firstBrackets? s

/-- The list that a text declares the applications in. -/
def declared? (text : List Char) : Option (List String) := do
  let (_, rest) ← cut? "backend_apps".toList text
  return Distinct.ofList (findAll (readMarked isQuote) none (← firstBrackets? rest))

def ofLayout (layout : Layout) : List String :=
  Distinct.addAll (layout.holders "models.py") (layout.holders "apps.py")

/-- The well-known names that a text mentions in quotes or as a step of a path. -/
def mentioned (text : List Char) : List String :=
  Distinct.ofList ((findAll (readMarked fun c => isQuote c || c == '/') none text).filter wellKnown.contains)

/-- The applications: those of a declared list, or else the directories that hold models, or else the well-known ones
that are mentioned. -/
def find (text : String) (layout : Layout) : List String :=
  match declared? text.toList with
  | some names => names
  | none => if (ofLayout layout).isEmpty then mentioned text.toList else ofLayout layout

end Plumbline.Applications
