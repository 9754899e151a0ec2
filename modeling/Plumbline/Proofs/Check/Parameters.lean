import Plumbline.Check
import Plumbline.Proofs.Json.Record

namespace Plumbline

open Json

section Parts

variable {room : Nat}

@[simp] theorem Severity.read?_toJson (manner : Manner) (severity : Severity) :
    Severity.read? manner severity.toJson = some severity := by
  cases severity <;> rfl

theorem Severity.read?_optional (manner : Manner) (severity : Option Severity) :
    (Slot.present (.optional Severity.toJson severity)).optional (Severity.read? manner) = some severity := by
  rcases severity with - | (- | - | - | -) <;> rfl

@[simp] theorem legible_severity (severity : Severity) : Legible room severity.toJson := .string severity.label

@[simp] theorem legible_optional_severity (severity : Option Severity) :
    Legible room (.optional Severity.toJson severity) := by
  cases severity with
  | none => exact .null
  | some severity => exact legible_severity severity

@[simp] theorem Requirement.read?_toJson (manner : Manner) (requirement : Requirement) :
    Requirement.read? manner requirement.toJson = some requirement := by
  rw [toJson, read?, record?_object (by simp)]
  simp

@[simp] theorem legible_requirement (requirement : Requirement) : Legible (room + 2) requirement.toJson := by
  simp [Requirement.toJson]

end Parts

namespace Check

variable {room : Nat}

@[simp] theorem Relation.ofJson?_toJson (relation : Relation) : Relation.ofJson? relation.toJson = some relation := by
  rw [toJson, ofJson?, record?_object (by simp)]
  simp

@[simp] theorem legible_relation (relation : Relation) : Legible (room + 1) relation.toJson := by
  simp [Relation.toJson]

@[simp] theorem Package.ofJson?_toJson (package : Package) : Package.ofJson? package.toJson = some package := by
  rw [toJson, ofJson?, record?_object (by cases package.version <;> simp)]
  obtain ⟨name, version, severity⟩ := package
  cases version <;> simp [option?]

@[simp] theorem legible_package (package : Package) : Legible (room + 1) package.toJson := by
  cases version : package.version <;> simp [Package.toJson, version]

theorem RequiredPaths.restored (check : RequiredPaths) :
    Restores (room + 4) RequiredPaths.ofJson? (.object check.members) check where
  legible := by simp [members]
  read := by
    rw [ofJson?, record?_object (by simp [members])]
    simp [members]

theorem FilePatterns.restored (check : FilePatterns) :
    Restores (room + 4) FilePatterns.ofJson? (.object check.members) check where
  legible := by simp [members]
  read := by
    rw [ofJson?, record?_object (by simp [members])]
    simp [members]

theorem AppStructure.restored (check : AppStructure) :
    Restores (room + 4) AppStructure.ofJson? (.object check.members) check where
  legible := by simp [members]
  read := by
    rw [ofJson?, record?_object (by simp [members])]
    simp [members]

theorem CiPipeline.restored (check : CiPipeline) :
    Restores (room + 4) CiPipeline.ofJson? (.object check.members) check where
  legible := by simp [members]
  read := by
    rw [ofJson?, record?_object (by simp [members])]
    simp [members]

theorem FileContent.restored (check : FileContent) :
    Restores (room + 4) FileContent.ofJson? (.object check.members) check where
  legible := by simp [members]
  read := by
    rw [ofJson?, record?_object (by simp [members])]
    simp [members, list?_map_self]

theorem TextPresent.restored (check : TextPresent) :
    Restores (room + 4) TextPresent.ofJson? (.object check.members) check where
  legible := by simp [members]
  read := by
    rw [ofJson?, record?_object (by simp [members])]
    simp [members, list?_map_self]

theorem ModuleDocstrings.restored (check : ModuleDocstrings) :
    Restores (room + 4) ModuleDocstrings.ofJson? (.object check.members) check where
  legible := by simp [members]
  read := by
    rw [ofJson?, record?_object (by simp [members])]
    simp [members, Severity.read?_optional]

theorem ReadmeSections.restored (check : ReadmeSections) (important : check.maxMissingImportant ≤ largest64)
    (sections : check.minSections ≤ largest64) :
    Restores (room + 4) ReadmeSections.ofJson? (.object check.members) check where
  legible := by simp [members, legible_nat important, legible_nat sections]
  read := by
    rw [ofJson?, record?_object (by simp [members])]
    simp [members, natural?_nat important, natural?_nat sections]

theorem ModelClasses.restored (check : ModelClasses) :
    Restores (room + 4) ModelClasses.ofJson? (.object check.members) check where
  legible := by simp [members]
  read := by
    rw [ofJson?, record?_object (by simp [members])]
    simp [members]

theorem ModelFields.restored (check : ModelFields) :
    Restores (room + 4) ModelFields.ofJson? (.object check.members) check where
  legible := by simp [members]
  read := by
    rw [ofJson?, record?_object (by simp [members])]
    simp [members]

theorem ModelRelationships.restored (check : ModelRelationships) :
    Restores (room + 4) ModelRelationships.ofJson? (.object check.members) check where
  legible := by simp [members]
  read := by
    rw [ofJson?, record?_object (by simp [members])]
    simp [members, list?_map_self]

theorem TenantBaseModel.restored (check : TenantBaseModel) :
    Restores (room + 4) TenantBaseModel.ofJson? (.object check.members) check where
  legible := by simp [members]
  read := by
    rw [ofJson?, record?_object (by simp [members])]
    simp [members]

theorem Migrations.restored (check : Migrations) :
    Restores (room + 4) Migrations.ofJson? (.object check.members) check where
  legible := by simp [members]
  read := by
    rw [ofJson?, record?_object (by simp [members])]
    simp [members]

theorem DeclaredDependencies.restored (check : DeclaredDependencies) :
    Restores (room + 4) DeclaredDependencies.ofJson? (.object check.members) check where
  legible := by simp [members]
  read := by
    rw [ofJson?, record?_object (by simp [members])]
    simp [members, list?_map_self]

theorem ModuleCoupling.restored (check : ModuleCoupling) :
    Restores (room + 4) ModuleCoupling.ofJson? (.object check.members) check where
  legible := by simp [members]
  read := by
    rw [ofJson?, record?_object (by simp [members])]
    simp [members]

theorem DefinitionsPresent.restored (check : DefinitionsPresent) :
    Restores (room + 4) DefinitionsPresent.ofJson? (.object check.members) check where
  legible := by simp [members]
  read := by
    rw [ofJson?, record?_object (by simp [members])]
    simp [members]

theorem TestLayout.restored (check : TestLayout) :
    Restores (room + 4) TestLayout.ofJson? (.object check.members) check where
  legible := by simp [members]
  read := by
    rw [ofJson?, record?_object (by simp [members])]
    simp [members]

theorem TestCoverage.restored (check : TestCoverage) (fits : check.minTestsPerModule ≤ largest64) :
    Restores (room + 4) TestCoverage.ofJson? (.object check.members) check where
  legible := by simp [members, legible_nat fits]
  read := by
    rw [ofJson?, record?_object (by simp [members])]
    simp [members, natural?_nat fits]

theorem IntegrationTests.restored (check : IntegrationTests) :
    Restores (room + 4) IntegrationTests.ofJson? (.object check.members) check where
  legible := by simp [members]
  read := by
    rw [ofJson?, record?_object (by simp [members])]
    simp [members]

theorem BreakingChanges.restored (check : BreakingChanges) :
    Restores (room + 4) BreakingChanges.ofJson? (.object check.members) check where
  legible := by simp [members]
  read := by
    rw [ofJson?, record?_object (by simp [members])]
    simp [members]

theorem DeprecationMarkers.restored (check : DeprecationMarkers) :
    Restores (room + 4) DeprecationMarkers.ofJson? (.object check.members) check where
  legible := by simp [members]
  read := by
    rw [ofJson?, record?_object (by simp [members])]
    simp [members]

theorem RefactoredComponents.restored (check : RefactoredComponents) :
    Restores (room + 4) RefactoredComponents.ofJson? (.object check.members) check where
  legible := by simp [members]
  read := by
    rw [ofJson?, record?_object (by simp [members])]
    simp [members]

theorem DocumentationFreshness.restored (check : DocumentationFreshness)
    (reads : parse (Json.float check.minDocstringRatio).pretty = some (.float check.minDocstringRatio)) :
    Restores (room + 4) DocumentationFreshness.ofJson? (.object check.members) check where
  legible := by simp [members, legible_float reads]
  read := by
    rw [ofJson?, record?_object (by simp [members])]
    simp [members]

theorem VersionFormat.restored (check : VersionFormat) :
    Restores (room + 4) VersionFormat.ofJson? (.object check.members) check where
  legible := by simp [members]
  read := by
    rw [ofJson?, record?_object (by simp [members])]
    simp [members]

end Check

namespace CheckSpec

variable {room : Nat}

/-- The parameters of a check that are doubles. -/
def doubles : CheckSpec → List Float
  | documentationFreshness check => [check.minDocstringRatio]
  | _ => []

/-- The parameters of a check that are whole numbers. -/
def counts : CheckSpec → List Nat
  | readmeSections check => [check.maxMissingImportant, check.minSections]
  | testCoverage check => [check.minTestsPerModule]
  | _ => []

theorem kind_not_mem_keys (check : CheckSpec) : "kind" ∉ check.members.map Prod.fst := by
  cases check <;> exact of_decide_eq_true rfl

/-- The parameters of every kind of check give the check back. -/
theorem restored_members (check : CheckSpec) (fits : ∀ n ∈ check.counts, n ≤ largest64)
    (reads : ∀ x ∈ check.doubles, parse (Json.float x).pretty = some (.float x)) :
    Restores (room + 4) (ofRecord? check.kind) (.object check.members) check := by
  cases check with
  | requiredPaths check => exact check.restored.map requiredPaths
  | filePatterns check => exact check.restored.map filePatterns
  | appStructure check => exact check.restored.map appStructure
  | ciPipeline check => exact check.restored.map ciPipeline
  | fileContent check => exact check.restored.map fileContent
  | textPresent check => exact check.restored.map textPresent
  | moduleDocstrings check => exact check.restored.map moduleDocstrings
  | readmeSections check =>
    have important := fits check.maxMissingImportant (by simp [counts])
    have sections := fits check.minSections (by simp [counts])
    exact (check.restored important sections).map readmeSections
  | modelClasses check => exact check.restored.map modelClasses
  | modelFields check => exact check.restored.map modelFields
  | modelRelationships check => exact check.restored.map modelRelationships
  | tenantBaseModel check => exact check.restored.map tenantBaseModel
  | migrations check => exact check.restored.map migrations
  | declaredDependencies check => exact check.restored.map declaredDependencies
  | moduleCoupling check => exact check.restored.map moduleCoupling
  | definitionsPresent check => exact check.restored.map definitionsPresent
  | testLayout check => exact check.restored.map testLayout
  | testCoverage check =>
    have least := fits check.minTestsPerModule (by simp [counts])
    exact (check.restored least).map testCoverage
  | integrationTests check => exact check.restored.map integrationTests
  | breakingChanges check => exact check.restored.map breakingChanges
  | deprecationMarkers check => exact check.restored.map deprecationMarkers
  | refactoredComponents check => exact check.restored.map refactoredComponents
  | documentationFreshness check =>
    have ratio := reads check.minDocstringRatio (by simp [doubles])
    exact (check.restored ratio).map documentationFreshness
  | versionFormat check => exact check.restored.map versionFormat

/-- Every check is given back by its kind and its parameters. -/
theorem restored (check : CheckSpec) (fits : ∀ n ∈ check.counts, n ≤ largest64)
    (reads : ∀ x ∈ check.doubles, parse (Json.float x).pretty = some (.float x)) :
    Restores (room + 4) ofJson? check.toJson check := by
  have parameters : Restores (room + 4) _ _ check := check.restored_members fits reads
  have legible := legible_object.mp parameters.legible
  refine ⟨legible_object.mpr (List.forall_mem_cons.mpr ⟨.string check.kind, legible⟩), ?_⟩
  rw [toJson, ofJson?, tagged?_object check.kind_not_mem_keys fun member among => (legible member among).isReadable]
  exact parameters.read

end CheckSpec

end Plumbline
