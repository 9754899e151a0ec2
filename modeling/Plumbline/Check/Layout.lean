import Plumbline.Requirement
import Plumbline.Site
import Plumbline.Text.Case

namespace Plumbline.Check

/-- Paths that must be there. A path that ends in a slash is a directory. -/
structure RequiredPaths where
  paths : List String
deriving DecidableEq, Repr

/-- The issue of a path that is not there. -/
def RequiredPaths.issue? (site : Site) (path : String) : Option Issue :=
  if path.toList.getLast? = some '/' then
    if site.isDirectoryAt (String.ofList path.toList.dropLast) then none
    else some (.make path "missing_directory" s!"Required directory not found: {path}"
      s!"Directory {path} must exist" "Directory does not exist" .high)
  else if site.existsAt path then none
  else some (.make path "missing_file" s!"Required file not found: {path}" s!"File {path} must exist"
    "File does not exist" .medium)

def RequiredPaths.run (check : RequiredPaths) (site : Site) : Except CheckError (List Issue) := do
  let _ ← site.walk
  return check.paths.filterMap (issue? site)

def RequiredPaths.members (check : RequiredPaths) : List (String × Json) := [("paths", .strings check.paths)]

def RequiredPaths.ofJson? (v : Json) : Option RequiredPaths := do
  let [paths] ← v.record? ["paths"] | none
  return { paths := ← paths.required (Json.list? Json.text?) }

/-- Patterns that must each match a file. -/
structure FilePatterns where
  patterns : List String
  issueType : String
  severity : Severity
deriving DecidableEq, Repr

def FilePatterns.run (check : FilePatterns) (site : Site) : Except CheckError (List Issue) := do
  let compiled ← PathPattern.parseAll check.patterns
  let files ← site.walkFiles
  return (check.patterns.zip compiled).filterMap fun (pattern, glob) =>
    if files.any (glob.isMatch ·.names) then none
    else some (.make pattern check.issueType s!"No file matches {pattern}" s!"A file matching {pattern} must exist"
      "No matching file" check.severity)

def FilePatterns.members (check : FilePatterns) : List (String × Json) :=
  [("patterns", .strings check.patterns), ("issue_type", .string check.issueType), ("severity", check.severity.toJson)]

def FilePatterns.ofJson? (v : Json) : Option FilePatterns := do
  let [patterns, issueType, severity] ← v.record? ["patterns", "issue_type", "severity"] | none
  return {
    patterns := ← patterns.required (Json.list? Json.text?)
    issueType := ← issueType.required Json.text?
    severity := ← severity.required (Severity.read? .tagged) }

/-- The directories of a package: those of its name that hold a file `__init__.py`. -/
def packageDirectories (site : Site) (app : String) : Except CheckError (List (List String)) := do
  return (← site.walkDirectories).filter fun names =>
    names.getLast? == some app && site.isFileAt (Path.join (Path.ofSteps names) "__init__.py")

/-- Applications that must be packages with certain files. -/
structure AppStructure where
  apps : List String
  requiredFiles : List String
  requireTestsDir : Bool
deriving DecidableEq, Repr

def AppStructure.issuesOf (check : AppStructure) (site : Site) (app : String) : Except CheckError (List Issue) := do
  match ← packageDirectories site app with
  | [] => return [.make app "missing_app" s!"Application not found: {app}"
      s!"Application {app} must be implemented as a package" "No package directory with __init__.py" .high]
  | names :: _ =>
    let directory := Path.ofSteps names
    let files := check.requiredFiles.filterMap fun file =>
      if site.existsAt (Path.join directory file) then none
      else some (.make (site.shown (Path.join directory file)) "missing_app_file"
        s!"Application {app} is missing {file}" s!"{file} must exist in application {app}" "File does not exist" .high)
    let tests := Path.join directory "tests"
    return files ++
      if check.requireTestsDir && !site.isDirectoryAt tests then
        [.make (site.shown tests) "missing_tests_directory" s!"Application {app} has no tests/ directory"
          "tests/ directory must exist in the application" "Directory does not exist" .medium]
      else []

def AppStructure.run (check : AppStructure) (site : Site) : Except CheckError (List Issue) := do
  return (← check.apps.mapM (check.issuesOf site)).flatten

def AppStructure.members (check : AppStructure) : List (String × Json) :=
  [("apps", .strings check.apps), ("required_files", .strings check.requiredFiles),
    ("require_tests_dir", .bool check.requireTestsDir)]

def AppStructure.ofJson? (v : Json) : Option AppStructure := do
  let [apps, requiredFiles, requireTestsDir] ← v.record? ["apps", "required_files", "require_tests_dir"] | none
  return {
    apps := ← apps.required (Json.list? Json.text?)
    requiredFiles := ← requiredFiles.required (Json.list? Json.text?)
    requireTestsDir := ← requireTestsDir.required Json.flag? }

/-- Steps that the continuous-integration workflow must mention. -/
structure CiPipeline where
  steps : List String
deriving DecidableEq, Repr

def workflowPattern : String := ".github/workflows/*.\x7byml,yaml\x7d"

/-- The workflow that is looked at: the first that speaks of a language's tools, else the first. -/
def mainWorkflow? (texts : List (String × List Char)) : Option (String × List Char) :=
  (texts.find? fun (_, text) => Text.contains "python".toList text || Text.contains "node".toList text).or texts.head?

/-- The issue of a step that a workflow does not mention. -/
def stepIssue? (path : String) (text : List Char) (step : String) : Option Issue :=
  if Text.contains (Text.lower step.toList) text then none
  else some (.make path "missing_ci_step" s!"CI workflow has no {step} step"
    s!"Step '{step}' must be configured in the workflow" "Step not configured" .medium)

def CiPipeline.run (check : CiPipeline) (site : Site) : Except CheckError (List Issue) := do
  let workflows ← site.filesMatching [workflowPattern]
  if workflows.isEmpty then
    return [.make ".github/workflows/" "missing_ci_pipeline" "No CI workflow found"
      "A GitHub Actions workflow must be configured" "No workflow file" .medium]
  let texts := workflows.filterMap fun file => file.text.map fun text => (file.path, Text.lower text.toList)
  match mainWorkflow? texts with
  | none => return []
  | some (path, text) => return check.steps.filterMap (stepIssue? path text)

def CiPipeline.members (check : CiPipeline) : List (String × Json) := [("steps", .strings check.steps)]

def CiPipeline.ofJson? (v : Json) : Option CiPipeline := do
  let [steps] ← v.record? ["steps"] | none
  return { steps := ← steps.required (Json.list? Json.text?) }

end Plumbline.Check
