import Plumbline.Text.Lines

namespace Plumbline.Source

open Plumbline.Text

/-- Whether a line of the text defines a class or function of this name. -/
def lineDefines (name : List Char) (line : List Char) : Bool :=
  let line := trimStart line
  let line := (after? "async ".toList line).getD line
  ["class ", "def "].any fun keyword =>
    match (after? keyword.toList line).bind (after? name) with
    | some (c :: _) => c == '(' || c == ':' || isBlank c
    | _ => false

def defines (text name : String) : Bool := (lines text.toList).any (lineDefines name.toList)

/-- The first word after an import keyword at the start of a line. -/
def importedPath? (line : List Char) : Option (List Char) :=
  let line := trimStart line
  match (after? "from ".toList line).or (after? "import ".toList line) with
  | some rest => (words rest).head?
  | none => none

/-- Whether some line of the text imports a module, by its name or as a part of a dotted path. -/
def importsModule (text module : String) : Bool :=
  (lines text.toList).any fun line =>
    match importedPath? line with
    | some path => (split (· == '.') (dropRightWhile (· == ',') path)).contains module.toList
    | none => false

/-- Whether the first line that is neither empty nor a comment opens a text in three quotes. -/
def startsWithDocstring (text : String) : Bool :=
  match ((lines text.toList).map trim).find? (fun line => !line.isEmpty && line.head? != some '#') with
  | some line =>
    let line := line.dropWhile fun c => c == 'r' || c == 'R' || c == 'u' || c == 'U'
    startsWith (List.replicate 3 '\x22') line || startsWith (List.replicate 3 '\x27') line
  | none => false

/-- How many test functions a text defines. -/
def countTests (text : String) : Nat :=
  ((lines text.toList).map fun line =>
    let line := trimStart line
    (after? "async ".toList line).getD line).countP (startsWith "def test".toList)

end Plumbline.Source
