import Plumbline.Profile
import Plumbline.Toml.Reader

namespace Plumbline

/-- How runs are to be judged: the profiles to choose from, and the rules, issues and weights that deviate from what a
manifest asks for. -/
structure Configuration (α : Type) where
  /-- The profile that holds when none is asked for. -/
  active : String
  profiles : NameMap (Profile α)
  ignored : List String
  /-- Rules that cannot be ignored. -/
  mandatory : List String
  tolerance : Tolerance
  severityWeights : Option (PerSeverity α)
  categoryWeights : Option (PerCategory α)

inductive ConfigurationError where
  | unreadable (path : String) (cause : FileError)
  | malformed (path : String)
  | unknownProfile (name : String) (available : List String)

def ConfigurationError.message : ConfigurationError → String
  | .unreadable path cause => s!"cannot read {path}: " ++ cause.message
  | .malformed path => s!"invalid configuration {path}"
  | .unknownProfile name available =>
    s!"unknown profile \x60{name}\x60 (available: " ++ ", ".intercalate available ++ ")"

namespace Configuration

variable {α : Type}

/-- The profile of a name, or the active one. -/
def profile (configuration : Configuration α) (name : Option String) :
    Except ConfigurationError (String × Profile α) :=
  let name := name.getD configuration.active
  match configuration.profiles.get? name with
  | some profile => .ok (name, profile)
  | none => .error (.unknownProfile name configuration.profiles.keys)

/-- Whether a run leaves out the rule of this name. -/
def ignores (configuration : Configuration α) (rule : String) : Bool :=
  configuration.ignored.contains rule && !configuration.mandatory.contains rule

/-- Puts the weights of the configuration over those of a manifest. -/
def weightsOver (configuration : Configuration α) (weights : Weights α) : Weights α where
  severity := configuration.severityWeights.getD weights.severity
  category := configuration.categoryWeights.getD weights.category

variable [Scale α]

def default : Configuration α where
  active := "moderate"
  profiles := Profile.builtin
  ignored := []
  mandatory := ["validate_directory_structure", "validate_django_models", "validate_django_settings_advanced"]
  tolerance := .none
  severityWeights := none
  categoryWeights := none

/-- Adds the profiles that are always there, as far as the configuration has none of their names. -/
def withBuiltin (configuration : Configuration α) : Configuration α :=
  { configuration with
    profiles := Profile.builtin.entries.foldl (fun m (name, profile) => m.insertNew name profile)
      configuration.profiles }

def toJson (configuration : Configuration Float) : Json := .object [
  ("validation_profile", .string configuration.active),
  ("profiles", Json.table Profile.toJson configuration.profiles),
  ("ignored_validations", .strings configuration.ignored),
  ("mandatory_validations", .strings configuration.mandatory), ("tolerance", configuration.tolerance.toJson),
  ("severity_weights", Json.optional Weights.severityToJson configuration.severityWeights),
  ("category_weights", Json.optional Weights.categoryToJson configuration.categoryWeights)]

/-- Reads a configuration from the value of a TOML text. -/
def ofValue? (v : Json) : Option (Configuration Float) := do
  let [active, profiles, ignored, mandatory, tolerance, severity, category] ← v.record?
    ["validation_profile", "profiles", "ignored_validations", "mandatory_validations", "tolerance", "severity_weights",
      "category_weights"] | none
  let fallback : Configuration Float := Configuration.default
  return {
    active := ← active.withDefault Json.text? fallback.active
    profiles := ← profiles.withDefault (Json.table? (Profile.read? .toml)) fallback.profiles
    ignored := ← ignored.withDefault (Json.list? Json.text?) []
    mandatory := ← mandatory.withDefault (Json.list? Json.text?) fallback.mandatory
    tolerance := ← tolerance.withDefault (Tolerance.read? .toml) .none
    severityWeights := ← severity.withDefault (Json.option? (Weights.readSeverity? .toml)) none
    categoryWeights := ← category.withDefault (Json.option? (Weights.readCategory? .toml)) none }

/-- Reads a configuration from TOML. What it leaves out is as by default. -/
def ofToml? (text : String) : Option (Configuration Float) :=
  ((Toml.parse text).bind fun v => ofValue? v.toJson).map withBuiltin

/-- Loads a configuration; where there is no file the default holds. -/
def load (files : FileSystem) (path : String) : Except ConfigurationError (Configuration Float) := do
  if !files.pathExists path then return .default
  let text ← (files.read path).mapError (ConfigurationError.unreadable path)
  match ofToml? text with
  | some configuration => return configuration
  | none => throw (.malformed path)

end Configuration

end Plumbline
