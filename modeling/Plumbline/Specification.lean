import Plumbline.Blueprint.Dependencies
import Plumbline.Blueprint.Layout
import Plumbline.Blueprint.Model
import Plumbline.Blueprint.Outline
import Plumbline.Blueprint.Technology

namespace Plumbline

/-- What a blueprint asks for. Whatever it leaves open is empty. -/
structure Specification where
  projectName : String
  projectDescription : String
  backendFramework : String
  frontendFramework : String
  database : String
  architecture : String
  testingFramework : String
  apps : List String
  models : List Model
  /-- The models that each model refers to. -/
  relationships : NameMap (List String)
  layout : Layout
  dependencies : Dependencies
  configFiles : List String
  docFiles : List String
  dockerFiles : List String
  apiPatterns : List String
  ciCd : List String
  multiTenancy : Bool
  /-- The class that every model of a tenant derives from. -/
  baseModelClass : String
  authentication : Authentication
  /-- What is expected of the content of files, by their names. -/
  contentExpectations : NameMap (List String)
  outline : List Section

namespace Specification

def empty : Specification where
  projectName := ""
  projectDescription := ""
  backendFramework := ""
  frontendFramework := ""
  database := ""
  architecture := ""
  testingFramework := ""
  apps := []
  models := []
  relationships := .empty
  layout := .empty
  dependencies := .none
  configFiles := []
  docFiles := []
  dockerFiles := []
  apiPatterns := []
  ciCd := []
  multiTenancy := false
  baseModelClass := ""
  authentication := .session
  contentExpectations := .empty
  outline := []

def model? (spec : Specification) (name : String) : Option Model := spec.models.find? (·.name == name)

def modelNames (spec : Specification) : List String := spec.models.map Model.name

def isDjango (spec : Specification) : Bool := spec.backendFramework == "django"

/-- Whether a documentation file is mentioned, whatever the case of ASCII letters. -/
def mentionsDoc (spec : Specification) (name : String) : Bool :=
  spec.docFiles.any fun doc => Text.asciiLower doc.toList == Text.asciiLower name.toList

def toJson (spec : Specification) : Json := .object [
  ("project_name", .string spec.projectName), ("project_description", .string spec.projectDescription),
  ("backend_framework", .string spec.backendFramework), ("frontend_framework", .string spec.frontendFramework),
  ("database", .string spec.database), ("architecture", .string spec.architecture),
  ("testing_framework", .string spec.testingFramework), ("apps", .strings spec.apps),
  ("models", .array (spec.models.map Model.toJson)),
  ("relationships", Json.table Json.strings spec.relationships), ("directory_tree", spec.layout.toJson),
  ("dependencies", spec.dependencies.toJson), ("config_files", .strings spec.configFiles),
  ("doc_files", .strings spec.docFiles), ("docker_files", .strings spec.dockerFiles),
  ("api_patterns", .strings spec.apiPatterns), ("ci_cd", .strings spec.ciCd),
  ("multi_tenancy", .bool spec.multiTenancy), ("base_model_class", .string spec.baseModelClass),
  ("authentication", spec.authentication.toJson),
  ("content_expectations", Json.table Json.strings spec.contentExpectations),
  ("outline", .array (spec.outline.map Section.toJson))]

def keys : List String := [
  "project_name", "project_description", "backend_framework", "frontend_framework", "database", "architecture",
  "testing_framework", "apps", "models", "relationships", "directory_tree", "dependencies", "config_files", "doc_files",
  "docker_files", "api_patterns", "ci_cd", "multi_tenancy", "base_model_class", "authentication",
  "content_expectations", "outline"]

def ofJson? (v : Json) : Option Specification := do
  let [projectName, projectDescription, backendFramework, frontendFramework, database, architecture, testingFramework,
    apps, models, relationships, layout, dependencies, configFiles, docFiles, dockerFiles, apiPatterns, ciCd,
    multiTenancy, baseModelClass, authentication, contentExpectations, outline] ← v.record? keys | none
  let texts := Json.list? Json.text?
  return {
    projectName := ← projectName.withDefault Json.text? ""
    projectDescription := ← projectDescription.withDefault Json.text? ""
    backendFramework := ← backendFramework.withDefault Json.text? ""
    frontendFramework := ← frontendFramework.withDefault Json.text? ""
    database := ← database.withDefault Json.text? ""
    architecture := ← architecture.withDefault Json.text? ""
    testingFramework := ← testingFramework.withDefault Json.text? ""
    apps := ← apps.withDefault texts []
    models := ← models.withDefault (Json.list? Model.ofJson?) []
    relationships := ← relationships.withDefault (Json.table? texts) .empty
    layout := ← layout.withDefault Layout.ofJson? .empty
    dependencies := ← dependencies.withDefault Dependencies.ofJson? .none
    configFiles := ← configFiles.withDefault texts []
    docFiles := ← docFiles.withDefault texts []
    dockerFiles := ← dockerFiles.withDefault texts []
    apiPatterns := ← apiPatterns.withDefault texts []
    ciCd := ← ciCd.withDefault texts []
    multiTenancy := ← multiTenancy.withDefault Json.flag? false
    baseModelClass := ← baseModelClass.withDefault Json.text? ""
    authentication := ← authentication.withDefault Authentication.ofJson? .session
    contentExpectations := ← contentExpectations.withDefault (Json.table? texts) .empty
    outline := ← outline.withDefault (Json.list? Section.ofJson?) [] }

end Specification

end Plumbline
