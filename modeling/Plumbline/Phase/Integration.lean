import Plumbline.Check
import Plumbline.Phase.Context
import Plumbline.Specification
import Plumbline.Text.Slug

namespace Plumbline.Integration

def ruleName (phase what : String) : String := "validate_" ++ String.ofList (Text.slug phase.toList) ++ "_" ++ what

/-- Texts that show a way of communication to be in use. A way without texts of its own shows by its name. -/
def patternSigns (pattern : String) : List String :=
  match pattern with
  | "signal" | "signals" => ["post_save", "pre_save", "Signal(", "@receiver"]
  | "event" | "events" => ["event", "Event"]
  | "message_queue" | "queue" => ["celery", "@shared_task", "kombu", "pika"]
  | "api_call" | "http" => ["requests.", "httpx"]
  | _ => [pattern]

def patternRequirement (pattern : String) : Requirement :=
  ⟨s!"Communication via {pattern}", patternSigns pattern, .medium⟩

/-- The operation of a migration that carries out an operation on the database. -/
def migrationOperation? : String → Option String
  | "create_table" | "create_model" => some "CreateModel"
  | "add_field" => some "AddField"
  | "alter_field" => some "AlterField"
  | "remove_field" => some "RemoveField"
  | "add_index" => some "AddIndex"
  | _ => none

def serviceRequirement (service : String) : Requirement :=
  ⟨s!"Integration with {service}", [service, String.ofList (Text.lower service.toList)], .medium⟩

/-- The modules that are wired together: those asked for, or else all applications. -/
def modules (wiring : Wiring) (spec : Specification) : List String :=
  if wiring.modules.isEmpty then spec.apps else wiring.modules

/-- Interfaces as they are listed, and then the contracts that are not among them. -/
def definitions (wiring : Wiring) : List String := Distinct.addAll wiring.interfaces wiring.contracts

/-- The rules of an integration. Its tests are always asked for. -/
def rules (phase : String) (wiring : Wiring) (spec : Specification) : List Rule :=
  let modules := modules wiring spec
  let definitions := definitions wiring
  Rule.given (1 < modules.length)
    ⟨ruleName phase "module_integration", s!"Phase {phase}: modules import one another", .high, .layout,
      .moduleCoupling ⟨modules⟩⟩ ++
  Rule.given (!definitions.isEmpty)
    ⟨ruleName phase "interfaces", s!"Phase {phase}: interfaces and contracts are defined", .high, .layout,
      .definitionsPresent ⟨["*.py"], definitions, "missing_interface", .high⟩⟩ ++
  Rule.given (!wiring.patterns.isEmpty)
    ⟨ruleName phase "communication", s!"Phase {phase}: modules communicate as planned", .medium, .layout,
      .textPresent ⟨["*.py"], "missing_communication_pattern", wiring.patterns.map patternRequirement⟩⟩ ++
  Rule.given (!wiring.databaseOperations.isEmpty)
    ⟨ruleName phase "database_integration", s!"Phase {phase}: migrations carry the schema changes", .high, .models,
      .migrations ⟨[], Distinct.ofList (wiring.databaseOperations.filterMap migrationOperation?), false⟩⟩ ++
  Rule.given (!wiring.endpoints.isEmpty)
    ⟨ruleName phase "api_integration", s!"Phase {phase}: endpoints are routed", .high, .api,
      .textPresent ⟨["urls.py"], "missing_api_endpoint",
        Requirement.literal wiring.endpoints (fun endpoint => s!"Endpoint {endpoint} is routed") .high⟩⟩ ++
  Rule.given (!wiring.externalServices.isEmpty)
    ⟨ruleName phase "external_apis", s!"Phase {phase}: external services are called", .medium, .api,
      .textPresent ⟨["*.py"], "missing_external_api_integration", wiring.externalServices.map serviceRequirement⟩⟩ ++
  [⟨ruleName phase "integration_tests", s!"Phase {phase}: integration tests cover the scenarios", .high, .content,
      .integrationTests ⟨wiring.scenarios⟩⟩] ++
  Rule.given (!wiring.settings.isEmpty)
    ⟨ruleName phase "configuration", s!"Phase {phase}: settings declare the integration keys", .medium, .content,
      .textPresent ⟨["settings.py"], "missing_integration_config",
        Requirement.literal wiring.settings (fun key => s!"{key} is configured") .medium⟩⟩ ++
  Rule.given (!wiring.settings.isEmpty)
    ⟨ruleName phase "env_configuration", s!"Phase {phase}: .env.example documents the integration keys", .low, .content,
      .textPresent ⟨[".env.example"], "missing_env_config",
        Requirement.literal wiring.settings (fun key => s!"{key} is documented") .low⟩⟩

end Plumbline.Integration
