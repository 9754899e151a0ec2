import Plumbline.Text.Class
import Plumbline.Text.Search
import Plumbline.Toml.Reader

namespace Plumbline.Version

open Plumbline.Text

/-- The characters of pre-release and build marks. -/
def isMarkChar (c : Char) : Bool := c.isAlphanum || c == '.' || c == '-'

/-- Reads digits, and a dot after them if there is to be one. -/
def readNumber (dotted : Bool) (s : List Char) : Option (List Char) := do
  let (_, s) ← some? isDecimal s
  if dotted then after? ['.'] s else some s

/-- Reads a mark after the sign that opens it; without the sign there is none. -/
def readMark (sign : Char) (s : List Char) : Option (List Char) :=
  match after? [sign] s with
  | none => some s
  | some s => (some? isMarkChar s).map (·.2)

/-- Whether a text is a semantic version: three numbers with dots, a pre-release mark and a build mark. -/
def isSemantic (version : String) : Bool :=
  let rest := do
    readMark '+' (← readMark '-' (← readNumber false (← readNumber true (← readNumber true version.toList))))
  rest.any List.isEmpty

/-- The version a project file gives, under its project or else under its packaging tool. -/
def ofProject? (text : String) : Option String := do
  let document ← (← Toml.parse text).withMoments?
  let version ← ((document.get? "project").bind (·.get? "version")).or
    (((document.get? "tool").bind (·.get? "poetry")).bind (·.get? "version"))
  version.text?

end Plumbline.Version
