import Plumbline.Check.Modules
import Plumbline.Check.Tests
import Plumbline.Decimal.Places
import Plumbline.Version

namespace Plumbline.Check

def missingChangelog (changelog : String) : Issue :=
  .make changelog "missing_changelog" s!"{changelog} not found" s!"{changelog} must record the evolution"
    "File does not exist" .medium

/-- Breaking changes that the changelog must mention. -/
structure BreakingChanges where
  changes : List String
  changelog : String
deriving DecidableEq, Repr

/-- The issue of a change that a changelog, given in lower case, does not mention. -/
def changeIssue? (path : String) (text : List Char) (change : String) : Option Issue :=
  if Text.contains (Text.lower (Text.trim change.toList)) text then none
  else some (.make path "undocumented_breaking_change" s!"Breaking change not documented: {change}"
    s!"{path} must describe '{change}'" "Not mentioned" .high)

def BreakingChanges.run (check : BreakingChanges) (site : Site) : Except CheckError (List Issue) := do
  match ← site.findFile? check.changelog with
  | none => return [missingChangelog check.changelog]
  | some file => return check.changes.filterMap (changeIssue? file.path (Text.lower (file.text.getD "").toList))

def BreakingChanges.members (check : BreakingChanges) : List (String × Json) :=
  [("changes", .strings check.changes), ("changelog", .string check.changelog)]

def BreakingChanges.ofJson? (v : Json) : Option BreakingChanges := do
  let [changes, changelog] ← v.record? ["changes", "changelog"] | none
  return {
    changes := ← changes.required (Json.list? Json.text?)
    changelog := ← changelog.required Json.text? }

/-- How many lines to each side of a definition may carry its deprecation notice. -/
def deprecationWindow : Nat := 5

def marksDeprecation (line : List Char) : Bool :=
  let line := Text.lower line
  Text.contains "deprecat".toList line || Text.contains "warnings.warn".toList line

/-- Whether some line near the given one marks a deprecation. There is no answer so far behind the last line that the
window does not touch the text. -/
def markedDeprecated? (lines : List (List Char)) (place : Nat) : Option Bool :=
  let start := place - deprecationWindow
  let stop := min (place + deprecationWindow + 1) lines.length
  if stop < start then none else some (((lines.take stop).drop start).any marksDeprecation)

/-- Deprecated features that must be marked where they are still defined. -/
structure DeprecationMarkers where
  features : List String
deriving DecidableEq, Repr

/-- The issue of one feature in one source. A feature that is gone needs no mark. -/
def deprecationIssue? (feature path text : String) : Option Issue :=
  let lines := Text.lines text.toList
  match lines.findIdx? (Source.lineDefines feature.toList) with
  | none => none
  | some place =>
    let number := place + 1
    if markedDeprecated? lines place = some true then none
    else some (.make path "missing_deprecation_warning" s!"{feature} is deprecated but not marked"
      "warnings.warn(..., DeprecationWarning) or a deprecation notice" s!"No marker near line {number}" .medium)

def DeprecationMarkers.run (check : DeprecationMarkers) (site : Site) : Except CheckError (List Issue) := do
  let files := (← site.walkFiles).filter fun file => isPython file && !isTestPath file.names
  let sources := files.filterMap fun file => file.text.map (file.path, ·)
  return check.features.flatMap fun feature => sources.filterMap fun (path, text) => deprecationIssue? feature path text

def DeprecationMarkers.members (check : DeprecationMarkers) : List (String × Json) :=
  [("features", .strings check.features)]

def DeprecationMarkers.ofJson? (v : Json) : Option DeprecationMarkers := do
  let [features] ← v.record? ["features"] | none
  return { features := ← features.required (Json.list? Json.text?) }

/-- Refactored components that must still exist and be tested. -/
structure RefactoredComponents where
  components : List String
deriving DecidableEq, Repr

/-- Whether a source defines a component, is named for it, or is in a directory named for it. -/
def holdsComponent (site : Site) (component : String) (file : FoundFile) : Bool :=
  (file.text.any fun text => Source.defines text component) || file.name == component ++ ".py" ||
    site.parentName? file.names == some component

/-- The issue of one component. -/
def componentIssue? (site : Site) (sources tests : List FoundFile) (component : String) : Option Issue :=
  if !sources.any (holdsComponent site component) then
    some (.make component "missing_refactored_component" s!"Refactored component not found: {component}"
      s!"{component} must exist after the refactor" "No definition or module" .high)
  else if !tests.any fun file => file.text.any fun text => Text.contains component.toList text.toList then
    some (.make component "untested_refactoring" s!"Refactored component has no tests: {component}"
      s!"Tests must exercise {component}" "Not referenced by any test" .medium)
  else none

def RefactoredComponents.run (check : RefactoredComponents) (site : Site) : Except CheckError (List Issue) := do
  let files := (← site.walkFiles).filter fun file => isPython file && file.text.isSome
  let (tests, sources) := files.partition fun file => isTestPath file.names
  return check.components.filterMap (componentIssue? site sources tests)

def RefactoredComponents.members (check : RefactoredComponents) : List (String × Json) :=
  [("components", .strings check.components)]

def RefactoredComponents.ofJson? (v : Json) : Option RefactoredComponents := do
  let [components] ← v.record? ["components"] | none
  return { components := ← components.required (Json.list? Json.text?) }

/-- A recent entry in the changelog, and docstrings in a share of the modules. -/
structure DocumentationFreshness where
  changelog : String
  recentMarkers : List String
  minDocstringRatio : Float

/-- The share of modules that open with a docstring, of those that are neither tests nor migrations nor empty. -/
def docstringRatio? (site : Site) : Except CheckError (Option Float) := do
  let files := (← site.walkFiles).filter fun file =>
    isPython file && !isTestPath file.names && !Text.contains "migrations/".toList file.path.toList
  let texts := (files.filterMap (·.text)).filter fun text => !(Text.trim text.toList).isEmpty
  if texts.isEmpty then return none
  return some ((texts.countP Source.startsWithDocstring).toFloat / texts.length.toFloat)

/-- A share in whole percent. -/
def percent (ratio : Float) : String := Decimal.withPlaces 0 (ratio * 100) ++ "%"

/-- The issue of a changelog, given in lower case, that no marker occurs in. -/
def recencyIssue? (markers : List String) (path : String) (text : List Char) : Option Issue :=
  if markers.any fun marker => Text.contains (Text.lower marker.toList) text then none
  else
    let names := ", ".intercalate markers
    some (.make path "outdated_documentation" "Changelog has no recent entry" s!"An entry marked one of {names}"
      "No recent marker" .medium)

def DocumentationFreshness.run (check : DocumentationFreshness) (site : Site) : Except CheckError (List Issue) := do
  let changelog := match ← site.findFile? check.changelog with
    | none => [missingChangelog check.changelog]
    | some file => (recencyIssue? check.recentMarkers file.path (Text.lower (file.text.getD "").toList)).toList
  match ← docstringRatio? site with
  | none => return changelog
  | some ratio =>
    if ratio < check.minDocstringRatio then
      let share := percent ratio
      let least := percent check.minDocstringRatio
      return changelog ++ [.make "*.py" "insufficient_documentation" s!"Only {share} of modules carry a docstring"
        s!"At least {least}" share .low]
    else return changelog

def DocumentationFreshness.members (check : DocumentationFreshness) : List (String × Json) :=
  [("changelog", .string check.changelog), ("recent_markers", .strings check.recentMarkers),
    ("min_docstring_ratio", .float check.minDocstringRatio)]

def DocumentationFreshness.ofJson? (v : Json) : Option DocumentationFreshness := do
  let [changelog, recentMarkers, minDocstringRatio] ←
    v.record? ["changelog", "recent_markers", "min_docstring_ratio"] | none
  return {
    changelog := ← changelog.required Json.text?
    recentMarkers := ← recentMarkers.required (Json.list? Json.text?)
    minDocstringRatio := ← minDocstringRatio.required Json.double? }

/-- A semantic version in the project file and, on request, in the release tags. -/
structure VersionFormat where
  file : String
  checkTags : Bool
deriving DecidableEq, Repr

/-- Text after the mark of a tag in a line of packed references. -/
def packedTag? (line : List Char) : Option String :=
  (Text.cut? " refs/tags/".toList line).map fun (_, tag) => String.ofList tag

/-- The tags of a repository, loose and packed, sorted and without repetition. -/
def gitTags (site : Site) : List String :=
  let loose := match site.files.node? (site.locate ".git/refs/tags") with
    | some (.directory entries) => entries.map (·.1)
    | _ => []
  let packed := match site.files.read (site.locate ".git/packed-refs") with
    | .ok text => (Text.lines text.toList).filterMap packedTag?
    | .error _ => []
  ((NameMap.ofList ((loose ++ packed).map fun tag => (tag, ()))).entries).map (·.1)

/-- The issue of the version in a project file. -/
def versionIssue? (path text : String) : Option Issue :=
  match Version.ofProject? text with
  | none => some (.make path "missing_version" s!"{path} declares no version" "version = \"MAJOR.MINOR.PATCH\""
      "No version key" .medium)
  | some version =>
    if Version.isSemantic version then none
    else some (.make path "invalid_version_format" s!"Version {version} is not semantic" "MAJOR.MINOR.PATCH" version
      .medium)

/-- The issue of a tag that is no version behind any number of leading letters v. -/
def tagIssue? (tag : String) : Option Issue :=
  if Version.isSemantic (String.ofList (tag.toList.dropWhile (· == 'v'))) then none
  else some (.make ".git/refs/tags" "invalid_tag_format" s!"Tag {tag} is not a semantic version" "vMAJOR.MINOR.PATCH"
    tag .low)

def VersionFormat.run (check : VersionFormat) (site : Site) : Except CheckError (List Issue) := do
  let file := check.file
  let version := match ← site.findFile? file with
    | none => [.make file "missing_file" s!"{file} not found" s!"{file} must declare the project version"
        "File does not exist" .medium]
    | some found => (versionIssue? found.path (found.text.getD "")).toList
  if check.checkTags && site.isDirectoryAt ".git" then
    let tags := gitTags site
    let absent := if tags.isEmpty then
        [.make ".git/refs/tags" "missing_release_tags" "No release tags found"
          "Releases must be tagged vMAJOR.MINOR.PATCH" "No tags" .low]
      else []
    return version ++ absent ++ tags.filterMap tagIssue?
  else return version

def VersionFormat.members (check : VersionFormat) : List (String × Json) :=
  [("file", .string check.file), ("check_tags", .bool check.checkTags)]

def VersionFormat.ofJson? (v : Json) : Option VersionFormat := do
  let [file, checkTags] ← v.record? ["file", "check_tags"] | none
  return { file := ← file.required Json.text?, checkTags := ← checkTags.required Json.flag? }

end Plumbline.Check
