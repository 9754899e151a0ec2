import Plumbline.Issue

namespace Plumbline

/-- Something a text has to say, in any of several ways. -/
structure Requirement where
  description : String
  anyOf : List String
  severity : Severity
deriving DecidableEq, Repr

namespace Requirement

/-- Whether one of the ways occurs in the text. -/
def isMetBy (requirement : Requirement) (text : String) : Bool :=
  requirement.anyOf.any fun needle => Text.contains needle.toList text.toList

/-- One requirement for each item, met by the item itself. -/
def literal (items : List String) (describe : String → String) (severity : Severity) : List Requirement :=
  items.map fun item => ⟨describe item, [item], severity⟩

def toJson (requirement : Requirement) : Json := .object [
  ("description", .string requirement.description), ("any_of", .strings requirement.anyOf),
  ("severity", requirement.severity.toJson)]

def read? (manner : Json.Manner) (v : Json) : Option Requirement := do
  let [description, anyOf, severity] ← v.record? ["description", "any_of", "severity"] | none
  return {
    description := ← description.required Json.text?
    anyOf := ← anyOf.required (Json.list? Json.text?)
    severity := ← severity.required (Severity.read? manner) }

def ofJson? (v : Json) : Option Requirement := read? .plain v

end Requirement

end Plumbline
