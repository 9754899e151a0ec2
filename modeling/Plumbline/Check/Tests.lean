import Plumbline.Check.Layout
import Plumbline.Source.Definitions
import Plumbline.Text.Lines

namespace Plumbline.Check

/-- Whether a path of names leads to a file of tests: by the name of the file, or by a directory `tests` on the way. -/
def isTestPath (names : List String) : Bool :=
  match names.getLast? with
  | none => false
  | some name =>
    Path.extension? name == some "py" &&
      (Text.startsWith "test_".toList name.toList || Text.endsWith "_test.py".toList name.toList ||
        name == "tests.py" || names.contains "tests")

def testFiles (site : Site) : Except CheckError (List FoundFile) := do
  return (← site.walkFiles).filter fun file => isTestPath file.names

/-- Applications that must have a package of tests with certain files. -/
structure TestLayout where
  apps : List String
  requiredFiles : List String
deriving DecidableEq, Repr

/-- A missing application is the business of another rule. -/
def TestLayout.issuesOf (check : TestLayout) (site : Site) (app : String) : Except CheckError (List Issue) := do
  match ← packageDirectories site app with
  | [] => return []
  | names :: _ =>
    let tests := Path.join (Path.ofSteps names) "tests"
    if !site.isDirectoryAt tests then
      return [.make (site.shown tests) "missing_tests_directory" s!"Application {app} has no tests/ package"
        "tests/ package must exist in the application" "Directory does not exist" .medium]
    return ("__init__.py" :: check.requiredFiles).filterMap fun file =>
      if site.isFileAt (Path.join tests file) then none
      else some (.make (site.shown (Path.join tests file)) "missing_test_file" s!"{app}/tests/{file} not found"
        s!"{file} must exist in {app}/tests/" "File does not exist" .medium)

def TestLayout.run (check : TestLayout) (site : Site) : Except CheckError (List Issue) := do
  return (← check.apps.mapM (check.issuesOf site)).flatten

def TestLayout.members (check : TestLayout) : List (String × Json) :=
  [("apps", .strings check.apps), ("required_files", .strings check.requiredFiles)]

def TestLayout.ofJson? (v : Json) : Option TestLayout := do
  let [apps, requiredFiles] ← v.record? ["apps", "required_files"] | none
  return {
    apps := ← apps.required (Json.list? Json.text?)
    requiredFiles := ← requiredFiles.required (Json.list? Json.text?) }

/-- Modules that need a number of test functions each. -/
structure TestCoverage where
  modules : List String
  minTestsPerModule : Nat
deriving DecidableEq, Repr

/-- The test functions of a module: those in files whose path or text mentions it. -/
def testsOf (files : List (String × String)) (module : String) : Nat :=
  (files.filter fun (path, text) =>
    Text.contains module.toList path.toList || Text.contains module.toList text.toList).foldl
      (fun total (_, text) => total + Source.countTests text) 0

/-- The issue of one module. -/
def coverageIssue? (least : Nat) (files : List (String × String)) (module : String) : Option Issue :=
  let count := testsOf files module
  if count = 0 then
    some (.make module "missing_tests" s!"Module {module} has no tests" s!"At least {least} tests for {module}"
      "0 tests" .high)
  else if count < least then
    some (.make module "insufficient_tests" s!"Module {module} has only {count} tests"
      s!"At least {least} tests for {module}" s!"{count} tests" .medium)
  else none

def TestCoverage.run (check : TestCoverage) (site : Site) : Except CheckError (List Issue) := do
  let files := (← testFiles site).filterMap fun file => file.text.map (file.path, ·)
  return check.modules.filterMap (coverageIssue? check.minTestsPerModule files)

def TestCoverage.members (check : TestCoverage) : List (String × Json) :=
  [("modules", .strings check.modules), ("min_tests_per_module", .nat check.minTestsPerModule)]

def TestCoverage.ofJson? (v : Json) : Option TestCoverage := do
  let [modules, minTestsPerModule] ← v.record? ["modules", "min_tests_per_module"] | none
  return {
    modules := ← modules.required (Json.list? Json.text?)
    minTestsPerModule := ← minTestsPerModule.required (Json.natural? Json.largest64) }

/-- Scenarios that the integration tests must cover. -/
structure IntegrationTests where
  scenarios : List String
deriving DecidableEq, Repr

/-- A scenario as an identifier would spell it. -/
def scenarioKey (scenario : List Char) : List Char :=
  (Text.lower (Text.trim scenario)).map fun c => if Text.isAlphanumeric c then c else '_'

/-- The issue of a scenario that no text covers, neither by its key nor in its own words. -/
def scenarioIssue? (texts : List (List Char)) (scenario : String) : Option Issue :=
  let key := scenarioKey scenario.toList
  let plain := Text.lower (Text.trim scenario.toList)
  if texts.any fun text => Text.contains key text || Text.contains plain text then none
  else some (.make "tests/integration/" "missing_test_scenario" s!"Integration scenario not covered: {scenario}"
    s!"A test covering '{scenario}'" "Scenario not found in integration tests" .medium)

def IntegrationTests.run (check : IntegrationTests) (site : Site) : Except CheckError (List Issue) := do
  let files := (← testFiles site).filter fun file => Text.contains "integration".toList file.path.toList
  let texts := (files.filterMap (·.text)).map fun text => Text.lower text.toList
  if texts.isEmpty then
    return [.make "tests/integration/" "missing_integration_tests" "No integration tests found"
      "Integration tests must cover cross-module flows" "No test file under an integration path" .high]
  return check.scenarios.filterMap (scenarioIssue? texts)

def IntegrationTests.members (check : IntegrationTests) : List (String × Json) :=
  [("scenarios", .strings check.scenarios)]

def IntegrationTests.ofJson? (v : Json) : Option IntegrationTests := do
  let [scenarios] ← v.record? ["scenarios"] | none
  return { scenarios := ← scenarios.required (Json.list? Json.text?) }

end Plumbline.Check
