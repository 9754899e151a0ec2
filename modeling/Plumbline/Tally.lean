import Plumbline.Files.FileSystem
import Plumbline.Issue
import Plumbline.Json.Printer

namespace Plumbline

/-- What a run counts while its rules are carried out one after another. -/
structure Tally where
  total : Nat
  passed : Nat
  failed : Nat
  issues : List Issue
  categories : PerCategory Nat
deriving DecidableEq, Repr

namespace Tally

def empty : Tally where
  total := 0
  passed := 0
  failed := 0
  issues := []
  categories := .tabulate fun _ => 0

def recordPass (tally : Tally) : Tally := { tally with total := tally.total + 1, passed := tally.passed + 1 }

/-- Counts one issue in its category. -/
def count (table : PerCategory Nat) (issue : Issue) : PerCategory Nat := table.update issue.category (· + 1)

def recordFailure (tally : Tally) (issues : List Issue) : Tally where
  total := tally.total + 1
  passed := tally.passed
  failed := tally.failed + 1
  issues := tally.issues ++ issues
  categories := issues.foldl count tally.categories

/-- A rule passes when it leaves no issue. -/
def record (tally : Tally) (issues : List Issue) : Tally :=
  if issues.isEmpty then tally.recordPass else tally.recordFailure issues

def countSeverity (tally : Tally) (severity : Severity) : Nat := tally.issues.countP (·.severity == severity)

def allPassed (tally : Tally) : Bool := tally.failed == 0

end Tally

/-- A tally and the score of it. -/
structure Results (α : Type) extends Tally where
  score : α
deriving DecidableEq, Repr

namespace Results

def toJson (results : Results Float) : Json := .object [
  ("total_checks", .nat results.total), ("passed_checks", .nat results.passed),
  ("failed_checks", .nat results.failed), ("issues", .array (results.issues.map Issue.toJson)),
  ("score", .float results.score),
  ("categories", .object (Category.all.map fun c => (c.label, .nat (results.categories.of c))))]

/-- Reads counts by category. A category left out counts nothing. -/
def categoriesOfJson? (v : Json) : Option (PerCategory Nat) := do
  let counts ← v.table? (Json.natural? Json.largest64)
  if counts.keys.all fun label => (Category.ofLabel? label).isSome then
    return .tabulate fun c => (counts.get? c.label).getD 0
  else none

def ofJson? (v : Json) : Option (Results Float) := do
  let [total, passed, failed, issues, score, categories] ←
    v.record? ["total_checks", "passed_checks", "failed_checks", "issues", "score", "categories"] | none
  return {
    total := ← total.required (Json.natural? Json.largest64)
    passed := ← passed.required (Json.natural? Json.largest64)
    failed := ← failed.required (Json.natural? Json.largest64)
    issues := ← issues.required (Json.list? Issue.ofJson?)
    score := ← score.required Json.double?
    categories := ← categories.required categoriesOfJson? }

end Results

/-- A results file or its directory that cannot be written. -/
structure ResultsError where
  path : String
  cause : FileError
deriving DecidableEq, Repr

def ResultsError.message (e : ResultsError) : String := s!"cannot write results {e.path}: " ++ e.cause.message

/-- Writes results to a file. The directories it is in are made where they are missing. -/
def Results.write (results : Results Float) (files : FileSystem) (path : String) : Except ResultsError FileSystem := do
  let files ← match Path.parent? path with
    | none => .ok files
    | some above => (files.makeAll above).mapError (ResultsError.mk above)
  (files.write path results.toJson.pretty).mapError (ResultsError.mk path)

end Plumbline
