import Plumbline.Json.Record
import Plumbline.Text.Search

namespace Plumbline

/-- How grave an issue is. -/
inductive Severity where
  | critical
  | high
  | medium
  | low
deriving DecidableEq, Repr, Inhabited

namespace Severity

/-- Gravest first. -/
def all : List Severity := [.critical, .high, .medium, .low]

def label : Severity → String
  | .critical => "CRITICAL"
  | .high => "HIGH"
  | .medium => "MEDIUM"
  | .low => "LOW"

def ofLabel? (s : String) : Option Severity := all.find? (·.label == s)

def toJson (s : Severity) : Json := .string s.label

def read? (manner : Json.Manner) (v : Json) : Option Severity := (v.wordIn? manner).bind ofLabel?

def ofJson? (v : Json) : Option Severity := read? .plain v

end Severity

/-- The area a rule belongs to, which decides how much its issues weigh. -/
inductive Category where
  | layout
  | content
  | models
  | dependencies
  | api
deriving DecidableEq, Repr, Inhabited

namespace Category

/-- In the order of reports. -/
def all : List Category := [.layout, .content, .models, .dependencies, .api]

def label : Category → String
  | .layout => "STRUCTURE"
  | .content => "CONTENT"
  | .models => "MODELS"
  | .dependencies => "DEPENDENCIES"
  | .api => "API"

def ofLabel? (s : String) : Option Category := all.find? (·.label == s)

def toJson (c : Category) : Json := .string c.label

def read? (manner : Json.Manner) (v : Json) : Option Category := (v.wordIn? manner).bind ofLabel?

def ofJson? (v : Json) : Option Category := read? .plain v

/-- The category an issue type suggests by the words in it. -/
def suggestedBy (issueType : String) : Category :=
  let name := issueType.toList.map Char.toLower
  let mentions (word : String) := Text.contains word.toList name
  if mentions "model" then .models
  else if mentions "content" || mentions "config" then .content
  else if mentions "api" then .api
  else if mentions "dependency" then .dependencies
  else .layout

end Category

/-- One thing for each category. -/
structure PerCategory (α : Type) where
  layout : α
  content : α
  models : α
  dependencies : α
  api : α
deriving DecidableEq, Repr

namespace PerCategory

variable {α : Type}

def of (table : PerCategory α) : Category → α
  | .layout => table.layout
  | .content => table.content
  | .models => table.models
  | .dependencies => table.dependencies
  | .api => table.api

def tabulate (f : Category → α) : PerCategory α := ⟨f .layout, f .content, f .models, f .dependencies, f .api⟩

def update (table : PerCategory α) (category : Category) (f : α → α) : PerCategory α :=
  tabulate fun c => if c = category then f (table.of c) else table.of c

@[simp] theorem of_tabulate (f : Category → α) (c : Category) : (tabulate f).of c = f c := by cases c <;> rfl

@[simp] theorem of_update (table : PerCategory α) (category c : Category) (f : α → α) :
    (table.update category f).of c = if c = category then f (table.of c) else table.of c := by simp [update]

end PerCategory

/-- One thing for each severity. -/
structure PerSeverity (α : Type) where
  critical : α
  high : α
  medium : α
  low : α
deriving DecidableEq, Repr

namespace PerSeverity

variable {α : Type}

def of (table : PerSeverity α) : Severity → α
  | .critical => table.critical
  | .high => table.high
  | .medium => table.medium
  | .low => table.low

end PerSeverity

/-- One way in which a tree falls short. -/
structure Issue where
  filePath : String
  issueType : String
  description : String
  expected : String
  actual : String
  severity : Severity
  category : Category
deriving DecidableEq, Repr

namespace Issue

/-- An issue in the category its type suggests. -/
def make (filePath issueType description expected actual : String) (severity : Severity) : Issue where
  filePath := filePath
  issueType := issueType
  description := description
  expected := expected
  actual := actual
  severity := severity
  category := .suggestedBy issueType

def inCategory (issue : Issue) (category : Category) : Issue := { issue with category := category }

def toJson (issue : Issue) : Json := .object [
  ("file_path", .string issue.filePath), ("issue_type", .string issue.issueType),
  ("description", .string issue.description), ("expected", .string issue.expected),
  ("actual", .string issue.actual), ("severity", issue.severity.toJson), ("category", issue.category.toJson)]

def ofJson? (v : Json) : Option Issue := do
  let [filePath, issueType, description, expected, actual, severity, category] ←
    v.record? ["file_path", "issue_type", "description", "expected", "actual", "severity", "category"] | none
  return {
    filePath := ← filePath.required Json.text?
    issueType := ← issueType.required Json.text?
    description := ← description.required Json.text?
    expected := ← expected.required Json.text?
    actual := ← actual.required Json.text?
    severity := ← severity.required Severity.ofJson?
    category := ← category.required Category.ofJson? }

end Issue

end Plumbline
