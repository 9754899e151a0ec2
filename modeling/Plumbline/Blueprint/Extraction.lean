import Plumbline.Blueprint.Applications
import Plumbline.Blueprint.Mentions
import Plumbline.Files.FileSystem
import Plumbline.Specification

namespace Plumbline

/-- A part of a blueprint that is missing or cannot be made sense of. -/
inductive Warning where
  | missingTitle
  | missingDirectorySection
  | unparseableDirectoryTree
  | noModels
  | noDependencies
  | noApps
deriving DecidableEq, Repr

namespace Warning

def name : Warning → String
  | .missingTitle => "MissingTitle"
  | .missingDirectorySection => "MissingDirectorySection"
  | .unparseableDirectoryTree => "UnparseableDirectoryTree"
  | .noModels => "NoModels"
  | .noDependencies => "NoDependencies"
  | .noApps => "NoApps"

def message : Warning → String
  | .missingTitle => "no level-1 heading; project name left empty"
  | .missingDirectorySection => "no directory structure section"
  | .unparseableDirectoryTree => "directory structure section has no tree diagram"
  | .noModels => "no model classes found in python blocks"
  | .noDependencies => "no versioned dependencies found"
  | .noApps => "no application modules found"

end Warning

/-- A specification and the warnings that came up while it was read. -/
structure Extraction where
  spec : Specification
  warnings : List Warning

inductive BlueprintError where
  | notFound (path : String)
  | unreadable (path : String) (cause : FileError)

def BlueprintError.message : BlueprintError → String
  | .notFound path => s!"Blueprint not found: {path}"
  | .unreadable path cause => s!"cannot read Blueprint {path}: " ++ cause.message

namespace Blueprint

/-- What headings call the section of the directory layout. -/
def layoutHeadings : List String := ["directory structure", "estrutura de diretórios", "project layout"]

/-- The layout that the first code of its section draws, or the warning that there is none. -/
def layout (document : Document) : Layout × List Warning :=
  match document.findHeading? layoutHeadings with
  | none => (.empty, [.missingDirectorySection])
  | some heading => match document.firstBlockInSection? heading with
    | none => (.empty, [.unparseableDirectoryTree])
    | some block =>
      if Diagram.looksLike block.text then (Diagram.parse block.text, []) else (.empty, [.unparseableDirectoryTree])

/-- The models of all Python blocks. A later declaration takes the place of an earlier one. -/
def models (document : Document) : List Model :=
  ((document.blocksIn "python").flatMap fun block => Model.inCode block.text).foldl Model.put []

/-- The models that each model refers to, without those that refer to none. -/
def relationships (models : List Model) : NameMap (List String) :=
  .ofList ((models.filter (!·.relations.isEmpty)).map fun model => (model.name, model.relations))

/-- What is expected of the content of key files. -/
def contentExpectations (multiTenancy : Bool) (database : String) : NameMap (List String) :=
  let settings :=
    ["INSTALLED_APPS includes the project apps"] ++
    (if database.isEmpty then [] else [s!"DATABASES uses {database}"]) ++
    ["REST_FRAMEWORK is configured"] ++
    (if multiTenancy then ["tenancy middleware is configured"] else [])
  let models := if multiTenancy then [("models.py", [
    "BaseTenantModel is defined", "models inherit from BaseTenantModel", "tenant field is present"])] else []
  .ofList ([("settings.py", settings)] ++ models ++ [("pyproject.toml", [
    "framework dependency is declared", "REST framework dependency is declared", "database driver is declared",
    "development dependencies are configured"])])

/-- Warns when something is missing. -/
def warnIf (isMissing : Bool) (warning : Warning) : List Warning := if isMissing then [warning] else []

/-- Reads what a blueprint asks for. -/
def extract (text : String) : Extraction :=
  let document := Document.ofText text
  let lowered := Text.lower text.toList
  let (layout, layoutWarnings) := layout document
  let models := models document
  let apps := Applications.find text layout
  let dependencies := Dependencies.find text document
  let database := Technology.firstWord lowered Technology.databases
  let multiTenancy := Technology.isMultiTenant lowered
  { spec := {
      projectName := document.projectName
      projectDescription := document.projectDescription
      backendFramework := Technology.firstWord lowered Technology.frameworks
      frontendFramework := Technology.firstWord lowered Technology.frontendFrameworks
      database := database
      architecture := Technology.architecture lowered
      testingFramework := Technology.testing lowered
      apps := apps
      models := models
      relationships := relationships models
      layout := layout
      dependencies := dependencies
      configFiles := Mention.find Mention.configuration text
      docFiles := Mention.find Mention.documentation text
      dockerFiles := Mention.find Mention.containers text
      apiPatterns := Technology.interfaceStyles text
      ciCd := Technology.integration lowered
      multiTenancy := multiTenancy
      baseModelClass := if multiTenancy then Technology.tenantBase else ""
      authentication := Technology.authentication lowered
      contentExpectations := contentExpectations multiTenancy database
      outline := document.outline }
    warnings :=
      warnIf document.projectName.isEmpty .missingTitle ++ layoutWarnings ++ warnIf models.isEmpty .noModels ++
      warnIf apps.isEmpty .noApps ++
      warnIf (dependencies.backend.isEmpty && dependencies.frontend.isEmpty) .noDependencies }

/-- Reads a blueprint file. -/
def load (files : FileSystem) (path : String) : Except BlueprintError Extraction := do
  if !files.pathExists path then throw (.notFound path)
  return extract (← (files.read path).mapError (BlueprintError.unreadable path))

end Blueprint

end Plumbline
