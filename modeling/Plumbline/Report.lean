import Plumbline.Decimal.Places
import Plumbline.Run

namespace Plumbline.Report

/-- The word for a score. -/
def status (score : Float) : String :=
  if 90 ≤ score then "EXCELLENT"
  else if 85 ≤ score then "APPROVED"
  else if 70 ≤ score then "NEEDS IMPROVEMENT"
  else "REJECTED"

/-- A percentage without places. -/
def wholePercent (x : Float) : String := Decimal.withPlaces 0 x ++ "%"

/-- A percentage with two places. -/
def exactPercent (x : Float) : String := Decimal.withPlaces 2 x ++ "%"

def padded (width : Nat) (s : String) : String := s.pushn ' ' (width - s.length)

/-- The line under a title, as long as the title in bytes and never short. -/
def underline (title : String) : String := "".pushn '=' (max title.utf8ByteSize 40)

/-- The categories in the order of a report: those in focus first. -/
def order (profile : Profile Float) : List Category :=
  profile.focusCategories ++ Category.all.filter fun c => !profile.focusCategories.contains c

def categoryLine (profile : Profile Float) (table : PerCategory Nat) (category : Category) : String :=
  let count := table.of category
  let required := 0 < count && profile.requiredCategories.contains category
  "  " ++ padded 13 category.label ++ " " ++ toString count ++ if required then "  (required)" else ""

def issueLines (issue : Issue) : List String := [
  "  [" ++ issue.category.label ++ s!"] {issue.filePath}: {issue.description}",
  s!"      expected: {issue.expected}",
  s!"      actual:   {issue.actual}"]

/-- The issues of one severity under a heading of their own; nothing when there are none. -/
def severityLines (issues : List Issue) (severity : Severity) : List String :=
  let ofSeverity := issues.filter (·.severity == severity)
  if ofSeverity.isEmpty then []
  else "" :: (severity.label ++ " (" ++ toString ofSeverity.length ++ ")") :: ofSeverity.flatMap issueLines

def verdictLine (verdict : Verdict Float) : String :=
  (if verdict.passed then "PASSED: " else "FAILED: ") ++ exactPercent verdict.score ++
    (if verdict.passed then " >= " else " < ") ++ wholePercent verdict.threshold

def lines (title profileName : String) (profile : Profile Float) (results : Results Float) (verdict : Verdict Float)
    (skipped : List String) : List String :=
  [title, underline title,
    s!"Profile: {profileName} (threshold " ++ wholePercent profile.minScoreThreshold ++ ")",
    "Checks: " ++ toString results.total ++ " total, " ++ toString results.passed ++ " passed, " ++
      toString results.failed ++ " failed"] ++
  (if skipped.isEmpty then [] else ["Skipped: " ++ ", ".intercalate skipped]) ++
  ["Score: " ++ exactPercent results.score ++ " [" ++ status results.score ++ "]", "", "Issues by category:"] ++
  (order profile).map (categoryLine profile results.categories) ++
  Severity.all.flatMap (severityLines results.issues) ++
  ["", verdictLine verdict]

/-- The report of a run for people to read. -/
def render (title profileName : String) (profile : Profile Float) (results : Results Float) (verdict : Verdict Float)
    (skipped : List String) : String :=
  String.join ((lines title profileName profile results verdict skipped).map (· ++ "\n"))

end Plumbline.Report
