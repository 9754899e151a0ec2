import Plumbline.Check
import Plumbline.Json.Reader
import Plumbline.Score

namespace Plumbline

/-- A validator that stands on its own: rules with all their parameters, and the weights of their issues. -/
structure Manifest (α : Type) where
  format : String
  name : String
  description : String
  /-- The label of the phase the rules were made for. -/
  phase : String
  generatedAt : String
  /-- Where results go unless another place is asked for. -/
  resultsPath : Option String
  weights : Weights α
  rules : List Rule

inductive ManifestError where
  | unreadable (path : String) (cause : FileError)
  | malformed
  | unsupportedFormat (format : String)

namespace Manifest

/-- The one format that can be carried out. -/
def supportedFormat : String := "agv-validator/1"

def toJson (manifest : Manifest Float) : Json := .object ([
  ("format", .string manifest.format), ("name", .string manifest.name),
  ("description", .string manifest.description), ("phase", .string manifest.phase),
  ("generated_at", .string manifest.generatedAt)] ++
  (manifest.resultsPath.map fun path => ("results_path", Json.string path)).toList ++
  [("weights", manifest.weights.toJson), ("rules", .array (manifest.rules.map Rule.toJson))])

def ofJson? (v : Json) : Option (Manifest Float) := do
  let [format, name, description, phase, generatedAt, resultsPath, weights, rules] ← v.record?
    ["format", "name", "description", "phase", "generated_at", "results_path", "weights", "rules"] | none
  return {
    format := ← format.required Json.text?
    name := ← name.required Json.text?
    description := ← description.required Json.text?
    phase := ← phase.required Json.text?
    generatedAt := ← generatedAt.required Json.text?
    resultsPath := ← resultsPath.withDefault (Json.option? Json.text?) none
    weights := ← weights.withDefault Weights.ofJson? Weights.default
    rules := ← rules.required (Json.list? Rule.ofJson?) }

/-- The text of a manifest. -/
def write (manifest : Manifest Float) : String := manifest.toJson.pretty

/-- Reads a manifest from its text. -/
def read (text : String) : Except ManifestError (Manifest Float) :=
  match (Json.parse text).bind ofJson? with
  | none => .error .malformed
  | some manifest =>
    if manifest.format = supportedFormat then .ok manifest else .error (.unsupportedFormat manifest.format)

def load (files : FileSystem) (path : String) : Except ManifestError (Manifest Float) := do
  read (← (files.read path).mapError (ManifestError.unreadable path))

end Manifest

def ManifestError.message : ManifestError → String
  | .unreadable path cause => s!"cannot read manifest {path}: " ++ cause.message
  | .malformed => "invalid manifest"
  | .unsupportedFormat format =>
    s!"unsupported manifest format \x60{format}\x60 (expected \x60" ++ Manifest.supportedFormat ++ "\x60)"

end Plumbline
