import Plumbline.Requirement
import Plumbline.Site
import Plumbline.Source.Definitions

namespace Plumbline.Check

def isPython (file : FoundFile) : Bool := Path.extension? file.name == some "py"

/-- Modules that must exist and be imported from elsewhere. -/
structure ModuleCoupling where
  modules : List String
deriving DecidableEq, Repr

/-- Where a module is: the package of its name, or the file named for it, whichever comes first. -/
def locateModule? (site : Site) (files : List FoundFile) (module : String) : Option (List String) :=
  files.findSome? fun file =>
    if file.name == "__init__.py" && site.parentName? file.names == some module then some file.names.dropLast
    else if file.name == module ++ ".py" then some file.names
    else none

/-- The issue of one module. -/
def moduleIssue? (site : Site) (files : List FoundFile) (module : String) : Option Issue :=
  match locateModule? site files module with
  | none => some (.make module "missing_module" s!"Module not found: {module}" s!"Module {module} must be implemented"
      "No package or module file" .high)
  | some place =>
    let others := files.filter fun file => !place.isPrefixOf file.names
    if (others.filterMap (·.text)).any (Source.importsModule · module) then none
    else some (.make (Path.ofSteps place) "isolated_module" s!"Module {module} is never imported by other modules"
      s!"{module} must be integrated with the rest of the system" "No importers found" .medium)

def ModuleCoupling.run (check : ModuleCoupling) (site : Site) : Except CheckError (List Issue) := do
  let files := (← site.walkFiles).filter isPython
  return check.modules.filterMap (moduleIssue? site files)

def ModuleCoupling.members (check : ModuleCoupling) : List (String × Json) := [("modules", .strings check.modules)]

def ModuleCoupling.ofJson? (v : Json) : Option ModuleCoupling := do
  let [modules] ← v.record? ["modules"] | none
  return { modules := ← modules.required (Json.list? Json.text?) }

/-- Classes or functions that some matching file must define. -/
structure DefinitionsPresent where
  files : List String
  names : List String
  issueType : String
  severity : Severity
deriving DecidableEq, Repr

def DefinitionsPresent.run (check : DefinitionsPresent) (site : Site) : Except CheckError (List Issue) := do
  let texts ← site.textsMatching check.files
  let location := ", ".intercalate check.files
  return check.names.filterMap fun name =>
    if texts.any (Source.defines · name) then none
    else some (.make location check.issueType s!"{name} is not defined" s!"{name} must be defined in {location}"
      "Definition not found" check.severity)

def DefinitionsPresent.members (check : DefinitionsPresent) : List (String × Json) :=
  [("files", .strings check.files), ("names", .strings check.names), ("issue_type", .string check.issueType),
    ("severity", check.severity.toJson)]

def DefinitionsPresent.ofJson? (v : Json) : Option DefinitionsPresent := do
  let [files, names, issueType, severity] ← v.record? ["files", "names", "issue_type", "severity"] | none
  return {
    files := ← files.required (Json.list? Json.text?)
    names := ← names.required (Json.list? Json.text?)
    issueType := ← issueType.required Json.text?
    severity := ← severity.required (Severity.read? .tagged) }

end Plumbline.Check
