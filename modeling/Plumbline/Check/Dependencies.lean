import Plumbline.Requirement
import Plumbline.Site
import Plumbline.Text.Case
import Plumbline.Text.Lines

namespace Plumbline.Check

open Plumbline.Text

/-- A package name without regard to case or to the choice among dash, underscore and dot. -/
def normalizeName (name : List Char) : List Char :=
  (lower (trim name)).map fun c => if c = '_' || c = '.' then '-' else c

/-- The characters of package names in manifests. -/
def isNameChar (c : Char) : Bool := c.isAlphanum || "-_.@/".toList.contains c

/-- What follows the extras in brackets after a package name. -/
def afterExtras : List Char → List Char
  | '[' :: s => match cut? [']'] s with
    | some (_, rest) => rest
    | none => []
  | s => s

/-- The package that a line of a manifest declares, and what the line says after the name. Comments and headings
declare nothing. -/
def declaration? (line : List Char) : Option (List Char × List Char) := do
  let line := (trim line).dropWhile fun c => c == '\x22' || c == '\x27'
  if line.head? = some '#' || line.head? = some '[' then none
  let (name, rest) ← some? isNameChar line
  return (normalizeName name, afterExtras rest)

/-- A package that must be declared, at a version if one is given. -/
structure Package where
  name : String
  version : Option String
  severity : Severity
deriving DecidableEq, Repr

def Package.toJson (package : Package) : Json := .object (
  ("name", .string package.name) ::
    ((package.version.map fun v => ("version", Json.string v)).toList ++ [("severity", package.severity.toJson)]))

def Package.ofJson? (v : Json) : Option Package := do
  let [name, version, severity] ← v.record? ["name", "version", "severity"] | none
  return {
    name := ← name.required Json.text?
    version := ← version.withDefault (Json.option? Json.text?) none
    severity := ← severity.required (Severity.read? .tagged) }

/-- Packages that some dependency manifest must declare. -/
structure DeclaredDependencies where
  manifests : List String
  packages : List Package
deriving DecidableEq, Repr

/-- What the first manifest that declares a package says after its name. -/
def findDeclaration? (manifests : List (String × String)) (wanted : List Char) : Option (String × List Char) :=
  manifests.findSome? fun (path, text) =>
    (((lines text.toList).filterMap declaration?).find? (·.1 == wanted)).map fun (_, rest) => (path, rest)

/-- The issue of one package; `first` is the manifest that reports show for a package none declares. -/
def packageIssue? (manifests : List (String × String)) (first : String) (package : Package) : Option Issue :=
  let name := package.name
  match findDeclaration? manifests (normalizeName name.toList), package.version with
  | none, _ => some (.make first "missing_dependency" s!"Dependency not declared: {name}" s!"{name} must be declared"
      "Not found in any manifest" package.severity)
  | some (path, rest), some version =>
    if contains version.toList rest then none
    else some (.make path "dependency_version_mismatch" s!"{name} is not declared at {version}" s!"{name} {version}"
      (name ++ String.ofList (dropRightWhile (· == ',') (trim rest))) .medium)
  | some _, none => none

def DeclaredDependencies.run (check : DeclaredDependencies) (site : Site) : Except CheckError (List Issue) := do
  let files ← site.filesMatching check.manifests
  let manifests := files.filterMap fun file => file.text.map (file.path, ·)
  match manifests with
  | [] =>
    let wanted := ", ".intercalate check.manifests
    return [.make wanted "missing_dependency_manifest" "No dependency manifest found" s!"One of {wanted} must exist"
      "No manifest file" .high]
  | (first, _) :: _ => return check.packages.filterMap (packageIssue? manifests first)

def DeclaredDependencies.members (check : DeclaredDependencies) : List (String × Json) :=
  [("manifests", .strings check.manifests), ("packages", .array (check.packages.map Package.toJson))]

def DeclaredDependencies.ofJson? (v : Json) : Option DeclaredDependencies := do
  let [manifests, packages] ← v.record? ["manifests", "packages"] | none
  return {
    manifests := ← manifests.required (Json.list? Json.text?)
    packages := ← packages.required (Json.list? Package.ofJson?) }

end Plumbline.Check
