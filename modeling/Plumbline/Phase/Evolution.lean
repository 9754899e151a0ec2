import Plumbline.Check
import Plumbline.Phase.Context
import Plumbline.Specification

namespace Plumbline.Evolution

/-- Texts that show an optimization to be in place. One without texts of its own shows by its name. -/
def optimizationSigns (optimization : String) : List String :=
  match optimization with
  | "database_indexing" => ["db_index=True", "Index("]
  | "caching" => ["@cache", "cache."]
  | "lazy_loading" => ["select_related", "prefetch_related"]
  | "pagination" => ["Paginator", "PageNumberPagination"]
  | "async_operations" => ["async def", "await "]
  | _ => [optimization]

def optimizationRequirement (optimization : String) : Requirement :=
  ⟨s!"Optimization {optimization} is applied", optimizationSigns optimization, .medium⟩

/-- The modules whose tests are looked at: the modified ones, or else all applications. -/
def modules (change : Change) (spec : Specification) : List String :=
  if change.modules.isEmpty then spec.apps else change.modules

/-- What a changelog that is up to date in a year mentions. Before the smallest year comes the largest. -/
def recentMarkers (year : Int32) : List String := ["unreleased", toString year, toString (year - 1)]

/-- The rules of a change made in a year. -/
def rules (year : Int32) (change : Change) (spec : Specification) : List Rule :=
  [⟨"validate_backward_compatibility", "Breaking changes are documented in the changelog", .high, .content,
      .breakingChanges ⟨change.breaking, "CHANGELOG.md"⟩⟩] ++
  Rule.given (!change.deprecated.isEmpty)
    ⟨"validate_deprecation_markers", "Deprecated features warn their callers", .medium, .content,
      .deprecationMarkers ⟨change.deprecated⟩⟩ ++
  Rule.given (!change.refactored.isEmpty)
    ⟨"validate_refactoring_safety", "Refactored components still exist and are tested", .high, .layout,
      .refactoredComponents ⟨change.refactored⟩⟩ ++
  [⟨"validate_test_maintenance", "Modified modules keep their tests", .high, .content,
      .testCoverage ⟨modules change spec, 2⟩⟩] ++
  Rule.given (!change.optimizations.isEmpty)
    ⟨"validate_performance_improvements", "Planned optimizations are in the code", .medium, .content,
      .textPresent ⟨["*.py"], "missing_performance_optimization",
        change.optimizations.map optimizationRequirement⟩⟩ ++
  [⟨"validate_documentation_updates", "README and changelog follow the code", .medium, .content,
      .documentationFreshness ⟨"CHANGELOG.md", recentMarkers year, 0.5⟩⟩,
    ⟨"validate_versioning", "The project version is semantic and tagged", .medium, .content,
      .versionFormat ⟨"pyproject.toml", true⟩⟩] ++
  Rule.given (!change.dataMigrations.isEmpty)
    ⟨"validate_data_migrations", "Data migrations exist", .high, .models,
      .textPresent ⟨["migrations/*.py"], "missing_data_migration",
        Requirement.literal change.dataMigrations (fun migration => s!"Migration {migration} exists") .high⟩⟩ ++
  Rule.given (!change.dataMigrations.isEmpty)
    ⟨"validate_migration_reversibility", "Data migrations can be reversed", .high, .models,
      .migrations ⟨[], [], true⟩⟩ ++
  Rule.given (!change.settings.isEmpty)
    ⟨"validate_configuration_evolution", "New settings are configured", .medium, .content,
      .textPresent ⟨["settings.py"], "missing_new_config",
        Requirement.literal change.settings (fun key => s!"{key} is configured") .medium⟩⟩ ++
  Rule.given (!change.settings.isEmpty)
    ⟨"validate_env_example_evolution", "New settings are documented in .env.example", .low, .content,
      .textPresent ⟨[".env.example"], "missing_env_example",
        Requirement.literal change.settings (fun key => s!"{key} is documented") .low⟩⟩

end Plumbline.Evolution
