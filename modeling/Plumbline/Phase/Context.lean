import Plumbline.Files.FileSystem
import Plumbline.Json.Reader
import Plumbline.Json.Record

namespace Plumbline

/-- Reads a record of lists of texts. A list left out is empty. -/
def Json.lists? (keys : List String) (v : Json) : Option (List (List String)) := do
  (← v.record? keys).mapM (Json.Slot.withDefault (Json.list? Json.text?) [])

/-- What a target delivers. -/
structure Delivery where
  models : List String
  views : List String
  /-- Pieces of addresses that are routed. -/
  urls : List String
  files : List String
  templates : List String
  components : List String
  settings : List String
deriving DecidableEq, Repr

namespace Delivery

def none : Delivery := ⟨[], [], [], [], [], [], []⟩

def isEmpty (delivery : Delivery) : Bool :=
  delivery.models.isEmpty && delivery.views.isEmpty && delivery.urls.isEmpty && delivery.files.isEmpty &&
    delivery.templates.isEmpty && delivery.components.isEmpty && delivery.settings.isEmpty

def toJson (delivery : Delivery) : Json := .object [
  ("models", .strings delivery.models), ("views", .strings delivery.views), ("urls", .strings delivery.urls),
  ("files", .strings delivery.files), ("templates", .strings delivery.templates),
  ("components", .strings delivery.components), ("settings", .strings delivery.settings)]

def ofJson? (v : Json) : Option Delivery := do
  let [models, views, urls, files, templates, components, settings] ←
    v.lists? ["models", "views", "urls", "files", "templates", "components", "settings"] | .none
  return ⟨models, views, urls, files, templates, components, settings⟩

end Delivery

/-- What an integration wires together, and by what means. -/
structure Wiring where
  /-- Modules that have to import one another. -/
  modules : List String
  interfaces : List String
  contracts : List String
  patterns : List String
  databaseOperations : List String
  endpoints : List String
  externalServices : List String
  scenarios : List String
  settings : List String
deriving DecidableEq, Repr

namespace Wiring

def none : Wiring := ⟨[], [], [], [], [], [], [], [], []⟩

def toJson (wiring : Wiring) : Json := .object [
  ("modules", .strings wiring.modules), ("interfaces", .strings wiring.interfaces),
  ("contracts", .strings wiring.contracts), ("communication_patterns", .strings wiring.patterns),
  ("database_operations", .strings wiring.databaseOperations), ("api_endpoints", .strings wiring.endpoints),
  ("external_apis", .strings wiring.externalServices), ("test_scenarios", .strings wiring.scenarios),
  ("config_keys", .strings wiring.settings)]

def ofJson? (v : Json) : Option Wiring := do
  let [modules, interfaces, contracts, patterns, databaseOperations, endpoints, externalServices, scenarios, settings] ←
    v.lists? ["modules", "interfaces", "contracts", "communication_patterns", "database_operations", "api_endpoints",
      "external_apis", "test_scenarios", "config_keys"] | .none
  return ⟨modules, interfaces, contracts, patterns, databaseOperations, endpoints, externalServices, scenarios,
    settings⟩

end Wiring

/-- What changes in a project that is in use. -/
structure Change where
  breaking : List String
  deprecated : List String
  refactored : List String
  modules : List String
  optimizations : List String
  dataMigrations : List String
  settings : List String
deriving DecidableEq, Repr

namespace Change

def none : Change := ⟨[], [], [], [], [], [], []⟩

def toJson (change : Change) : Json := .object [
  ("breaking_changes", .strings change.breaking), ("deprecated_features", .strings change.deprecated),
  ("refactored_components", .strings change.refactored), ("modified_modules", .strings change.modules),
  ("performance_optimizations", .strings change.optimizations), ("data_migrations", .strings change.dataMigrations),
  ("new_config_keys", .strings change.settings)]

def ofJson? (v : Json) : Option Change := do
  let [breaking, deprecated, refactored, modules, optimizations, dataMigrations, settings] ←
    v.lists? ["breaking_changes", "deprecated_features", "refactored_components", "modified_modules",
      "performance_optimizations", "data_migrations", "new_config_keys"] | .none
  return ⟨breaking, deprecated, refactored, modules, optimizations, dataMigrations, settings⟩

end Change

/-- A file that says what a phase is about and cannot be used. -/
inductive ContextError where
  | unreadable (path : String) (cause : FileError)
  | malformed (path : String)
deriving DecidableEq, Repr

def ContextError.message : ContextError → String
  | .unreadable path cause => s!"cannot read context {path}: " ++ cause.message
  | .malformed path => s!"invalid context {path}"

/-- Loads what a phase is about from a JSON file. -/
def loadContext {α : Type} (read : Json → Option α) (files : FileSystem) (path : String) : Except ContextError α := do
  let text ← (files.read path).mapError (ContextError.unreadable path)
  match (Json.parse text).bind read with
  | some context => return context
  | none => throw (.malformed path)

end Plumbline
