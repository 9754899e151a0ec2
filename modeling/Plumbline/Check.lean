import Plumbline.Check.Content
import Plumbline.Check.Dependencies
import Plumbline.Check.Evolution
import Plumbline.Check.Models

namespace Plumbline

open Check

/-- A check of any kind with its parameters. -/
inductive CheckSpec where
  | requiredPaths (check : RequiredPaths)
  | filePatterns (check : FilePatterns)
  | appStructure (check : AppStructure)
  | ciPipeline (check : CiPipeline)
  | fileContent (check : FileContent)
  | textPresent (check : TextPresent)
  | moduleDocstrings (check : ModuleDocstrings)
  | readmeSections (check : ReadmeSections)
  | modelClasses (check : ModelClasses)
  | modelFields (check : ModelFields)
  | modelRelationships (check : ModelRelationships)
  | tenantBaseModel (check : TenantBaseModel)
  | migrations (check : Migrations)
  | declaredDependencies (check : DeclaredDependencies)
  | moduleCoupling (check : ModuleCoupling)
  | definitionsPresent (check : DefinitionsPresent)
  | testLayout (check : TestLayout)
  | testCoverage (check : TestCoverage)
  | integrationTests (check : IntegrationTests)
  | breakingChanges (check : BreakingChanges)
  | deprecationMarkers (check : DeprecationMarkers)
  | refactoredComponents (check : RefactoredComponents)
  | documentationFreshness (check : DocumentationFreshness)
  | versionFormat (check : VersionFormat)

namespace CheckSpec

/-- The name of a check's kind. -/
def kind : CheckSpec → String
  | requiredPaths _ => "required_paths"
  | filePatterns _ => "file_patterns"
  | appStructure _ => "app_structure"
  | ciPipeline _ => "ci_pipeline"
  | fileContent _ => "file_content"
  | textPresent _ => "text_present"
  | moduleDocstrings _ => "module_docstrings"
  | readmeSections _ => "readme_sections"
  | modelClasses _ => "model_classes"
  | modelFields _ => "model_fields"
  | modelRelationships _ => "model_relationships"
  | tenantBaseModel _ => "tenant_base_model"
  | migrations _ => "migrations"
  | declaredDependencies _ => "declared_dependencies"
  | moduleCoupling _ => "module_coupling"
  | definitionsPresent _ => "definitions_present"
  | testLayout _ => "test_layout"
  | testCoverage _ => "test_coverage"
  | integrationTests _ => "integration_tests"
  | breakingChanges _ => "breaking_changes"
  | deprecationMarkers _ => "deprecation_markers"
  | refactoredComponents _ => "refactored_components"
  | documentationFreshness _ => "documentation_freshness"
  | versionFormat _ => "version_format"

/-- Carries a check out against a site. No issues means that it passes. -/
def run : CheckSpec → Site → Except CheckError (List Issue)
  | requiredPaths check => check.run
  | filePatterns check => check.run
  | appStructure check => check.run
  | ciPipeline check => check.run
  | fileContent check => check.run
  | textPresent check => check.run
  | moduleDocstrings check => check.run
  | readmeSections check => check.run
  | modelClasses check => check.run
  | modelFields check => check.run
  | modelRelationships check => check.run
  | tenantBaseModel check => check.run
  | migrations check => check.run
  | declaredDependencies check => check.run
  | moduleCoupling check => check.run
  | definitionsPresent check => check.run
  | testLayout check => check.run
  | testCoverage check => check.run
  | integrationTests check => check.run
  | breakingChanges check => check.run
  | deprecationMarkers check => check.run
  | refactoredComponents check => check.run
  | documentationFreshness check => check.run
  | versionFormat check => check.run

/-- The parameters of a check as members of an object. -/
def members : CheckSpec → List (String × Json)
  | requiredPaths check => check.members
  | filePatterns check => check.members
  | appStructure check => check.members
  | ciPipeline check => check.members
  | fileContent check => check.members
  | textPresent check => check.members
  | moduleDocstrings check => check.members
  | readmeSections check => check.members
  | modelClasses check => check.members
  | modelFields check => check.members
  | modelRelationships check => check.members
  | tenantBaseModel check => check.members
  | migrations check => check.members
  | declaredDependencies check => check.members
  | moduleCoupling check => check.members
  | definitionsPresent check => check.members
  | testLayout check => check.members
  | testCoverage check => check.members
  | integrationTests check => check.members
  | breakingChanges check => check.members
  | deprecationMarkers check => check.members
  | refactoredComponents check => check.members
  | documentationFreshness check => check.members
  | versionFormat check => check.members

/-- A check as an object that begins with its kind. -/
def toJson (check : CheckSpec) : Json := .object (("kind", .string check.kind) :: check.members)

/-- Reads the parameters of a check of a given kind. -/
def ofRecord? (kind : String) (v : Json) : Option CheckSpec :=
  match kind with
  | "required_paths" => (RequiredPaths.ofJson? v).map .requiredPaths
  | "file_patterns" => (FilePatterns.ofJson? v).map .filePatterns
  | "app_structure" => (AppStructure.ofJson? v).map .appStructure
  | "ci_pipeline" => (CiPipeline.ofJson? v).map .ciPipeline
  | "file_content" => (FileContent.ofJson? v).map .fileContent
  | "text_present" => (TextPresent.ofJson? v).map .textPresent
  | "module_docstrings" => (ModuleDocstrings.ofJson? v).map .moduleDocstrings
  | "readme_sections" => (ReadmeSections.ofJson? v).map .readmeSections
  | "model_classes" => (ModelClasses.ofJson? v).map .modelClasses
  | "model_fields" => (ModelFields.ofJson? v).map .modelFields
  | "model_relationships" => (ModelRelationships.ofJson? v).map .modelRelationships
  | "tenant_base_model" => (TenantBaseModel.ofJson? v).map .tenantBaseModel
  | "migrations" => (Migrations.ofJson? v).map .migrations
  | "declared_dependencies" => (DeclaredDependencies.ofJson? v).map .declaredDependencies
  | "module_coupling" => (ModuleCoupling.ofJson? v).map .moduleCoupling
  | "definitions_present" => (DefinitionsPresent.ofJson? v).map .definitionsPresent
  | "test_layout" => (TestLayout.ofJson? v).map .testLayout
  | "test_coverage" => (TestCoverage.ofJson? v).map .testCoverage
  | "integration_tests" => (IntegrationTests.ofJson? v).map .integrationTests
  | "breaking_changes" => (BreakingChanges.ofJson? v).map .breakingChanges
  | "deprecation_markers" => (DeprecationMarkers.ofJson? v).map .deprecationMarkers
  | "refactored_components" => (RefactoredComponents.ofJson? v).map .refactoredComponents
  | "documentation_freshness" => (DocumentationFreshness.ofJson? v).map .documentationFreshness
  | "version_format" => (VersionFormat.ofJson? v).map .versionFormat
  | _ => none

def ofJson? (v : Json) : Option CheckSpec := do
  let (kind, v) ← v.tagged? "kind"
  ofRecord? kind v

end CheckSpec

/-- A named check, the category of its issues, and how grave it is as a whole. -/
structure Rule where
  name : String
  description : String
  severity : Severity
  category : Category
  check : CheckSpec

namespace Rule

/-- The rule alone if a condition holds, and none else. -/
def given (condition : Bool) (rule : Rule) : List Rule := if condition then [rule] else []

def toJson (rule : Rule) : Json := .object [
  ("name", .string rule.name), ("description", .string rule.description), ("severity", rule.severity.toJson),
  ("category", rule.category.toJson), ("check", rule.check.toJson)]

def ofJson? (v : Json) : Option Rule := do
  let [name, description, severity, category, check] ←
    v.record? ["name", "description", "severity", "category", "check"] | none
  return {
    name := ← name.required Json.text?
    description := ← description.required Json.text?
    severity := ← severity.required Severity.ofJson?
    category := ← category.required Category.ofJson?
    check := ← check.required CheckSpec.ofJson? }

end Rule

end Plumbline
