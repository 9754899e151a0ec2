import Plumbline.Requirement
import Plumbline.Site
import Plumbline.Source.Definitions
import Plumbline.Text.Quoted

namespace Plumbline.Check

/-- What is reported as found when none of the ways to meet a requirement was. -/
def noneFound (requirement : Requirement) : String :=
  let ways := Text.quotedList requirement.anyOf
  s!"None of {ways} found"

/-- Requirements on the first file a pattern matches. -/
structure FileContent where
  file : String
  missingSeverity : Severity
  requirements : List Requirement
deriving DecidableEq, Repr

def FileContent.run (check : FileContent) (site : Site) : Except CheckError (List Issue) := do
  let pattern := check.file
  match ← site.findFile? pattern with
  | none => return [.make pattern "missing_file" s!"File not found: {pattern}" s!"{pattern} must exist"
      "File does not exist" check.missingSeverity]
  | some file =>
    let path := file.path
    return check.requirements.filterMap fun requirement =>
      if requirement.isMetBy (file.text.getD "") then none
      else
        let description := requirement.description
        some (.make path "missing_content" s!"{path}: {description}" description (noneFound requirement)
          requirement.severity)

def FileContent.members (check : FileContent) : List (String × Json) :=
  [("file", .string check.file), ("missing_severity", check.missingSeverity.toJson),
    ("requirements", .array (check.requirements.map Requirement.toJson))]

def FileContent.ofJson? (v : Json) : Option FileContent := do
  let [file, missingSeverity, requirements] ← v.record? ["file", "missing_severity", "requirements"] | none
  return {
    file := ← file.required Json.text?
    missingSeverity := ← missingSeverity.required (Severity.read? .tagged)
    requirements := ← requirements.required (Json.list? (Requirement.read? .tagged)) }

/-- Requirements that any of the matching files may meet. -/
structure TextPresent where
  files : List String
  issueType : String
  requirements : List Requirement
deriving DecidableEq, Repr

def TextPresent.run (check : TextPresent) (site : Site) : Except CheckError (List Issue) := do
  let texts ← site.textsMatching check.files
  let location := ", ".intercalate check.files
  return check.requirements.filterMap fun requirement =>
    if texts.any requirement.isMetBy then none
    else
      let description := requirement.description
      some (.make location check.issueType s!"Not found in {location}: {description}" description
        (if texts.isEmpty then "No matching files" else noneFound requirement) requirement.severity)

def TextPresent.members (check : TextPresent) : List (String × Json) :=
  [("files", .strings check.files), ("issue_type", .string check.issueType),
    ("requirements", .array (check.requirements.map Requirement.toJson))]

def TextPresent.ofJson? (v : Json) : Option TextPresent := do
  let [files, issueType, requirements] ← v.record? ["files", "issue_type", "requirements"] | none
  return {
    files := ← files.required (Json.list? Json.text?)
    issueType := ← issueType.required Json.text?
    requirements := ← requirements.required (Json.list? (Requirement.read? .tagged)) }

/-- Source files that must open with a docstring. -/
structure ModuleDocstrings where
  pattern : String
  /-- Look only at files beside a file `__init__.py`. -/
  packagesOnly : Bool
  /-- How grave it is that no file matches, when that counts at all. -/
  missingSeverity : Option Severity
  severity : Severity
deriving DecidableEq, Repr

def isInPackage (site : Site) (file : FoundFile) : Bool :=
  site.isFileAt (Path.ofSteps (file.names.dropLast ++ ["__init__.py"]))

/-- The issue of one source file. -/
def ModuleDocstrings.issue? (severity : Severity) (file : FoundFile) : Option Issue :=
  let path := file.path
  let text := file.text.getD ""
  if (Text.trim text.toList).isEmpty then
    some (.make path "empty_file" s!"{path} is empty" "File must at least carry a module docstring" "Empty file"
      severity)
  else if Source.startsWithDocstring text then none
  else some (.make path "missing_docstring" s!"{path} has no module docstring" "File must open with a module docstring"
    "First statement is not a docstring" severity)

def ModuleDocstrings.run (check : ModuleDocstrings) (site : Site) : Except CheckError (List Issue) := do
  let pattern := check.pattern
  let files := (← site.filesMatching [pattern]).filter fun file => !check.packagesOnly || isInPackage site file
  if files.isEmpty then
    return (check.missingSeverity.map fun severity =>
      .make pattern "missing_file" s!"No {pattern} found" s!"{pattern} must exist" "File does not exist"
        severity).toList
  return files.filterMap (issue? check.severity)

def ModuleDocstrings.members (check : ModuleDocstrings) : List (String × Json) :=
  [("pattern", .string check.pattern), ("packages_only", .bool check.packagesOnly),
    ("missing_severity", .optional Severity.toJson check.missingSeverity), ("severity", check.severity.toJson)]

def ModuleDocstrings.ofJson? (v : Json) : Option ModuleDocstrings := do
  let [pattern, packagesOnly, missingSeverity, severity] ←
    v.record? ["pattern", "packages_only", "missing_severity", "severity"] | none
  return {
    pattern := ← pattern.required Json.text?
    packagesOnly := ← packagesOnly.required Json.flag?
    missingSeverity := ← missingSeverity.optional (Severity.read? .tagged)
    severity := ← severity.required (Severity.read? .tagged) }

/-- What a readme must hold: every critical element, most of the important ones, a title and enough sections. -/
structure ReadmeSections where
  file : String
  critical : List String
  important : List String
  maxMissingImportant : Nat
  minSections : Nat
deriving DecidableEq, Repr

/-- The issues of a readme of this text. -/
def ReadmeSections.issues (check : ReadmeSections) (path text : String) : List Issue :=
  let isMissing (element : String) := !Text.contains element.toList text.toList
  let critical := (check.critical.filter isMissing).map fun element =>
    Issue.make path "missing_readme_section" s!"README lacks required element: {element}"
      s!"'{element}' must appear in the README" "Element not found" .high
  let absent := check.important.filter isMissing
  let count := absent.length
  let names := ", ".intercalate absent
  let important :=
    if check.maxMissingImportant < count then
      [Issue.make path "incomplete_documentation" s!"README incomplete: {count} elements absent"
        "README must cover the Blueprint's stack and setup" s!"Missing: {names}" .medium]
    else []
  let lines := Text.lines text.toList
  let title :=
    if lines.any (Text.startsWith "# ".toList) then []
    else [Issue.make path "missing_readme_title" "README has no level-1 title" "README must open with a '# ' title"
      "No H1 heading" .high]
  let sections := lines.countP (Text.startsWith "## ".toList)
  let least := check.minSections
  let short :=
    if sections < least then
      [Issue.make path "insufficient_documentation" s!"README has only {sections} sections"
        s!"At least {least} '## ' sections" s!"{sections} sections" .medium]
    else []
  critical ++ important ++ title ++ short

/-- A missing readme is the business of another rule. -/
def ReadmeSections.run (check : ReadmeSections) (site : Site) : Except CheckError (List Issue) := do
  match ← site.findFile? check.file with
  | none => return []
  | some file => return check.issues file.path (file.text.getD "")

def ReadmeSections.members (check : ReadmeSections) : List (String × Json) :=
  [("file", .string check.file), ("critical", .strings check.critical), ("important", .strings check.important),
    ("max_missing_important", .nat check.maxMissingImportant), ("min_sections", .nat check.minSections)]

def ReadmeSections.ofJson? (v : Json) : Option ReadmeSections := do
  let [file, critical, important, maxMissingImportant, minSections] ←
    v.record? ["file", "critical", "important", "max_missing_important", "min_sections"] | none
  return {
    file := ← file.required Json.text?
    critical := ← critical.required (Json.list? Json.text?)
    important := ← important.required (Json.list? Json.text?)
    maxMissingImportant := ← maxMissingImportant.required (Json.natural? Json.largest64)
    minSections := ← minSections.required (Json.natural? Json.largest64) }

end Plumbline.Check
