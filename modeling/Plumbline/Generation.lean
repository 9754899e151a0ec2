import Plumbline.Compilation
import Plumbline.Phase

namespace Plumbline

/-- Where a validator is written, and where its results go. -/
structure Artifacts where
  validator : String
  results : String
deriving DecidableEq, Repr

/-- The places below a directory for a validator of this name and phase that is made at this moment. -/
def Artifacts.below (directory name label : String) (moment : Moment) : Artifacts where
  validator := Path.join (Path.join directory "validators") (name ++ "_" ++ moment.stamp ++ ".json")
  results := Path.join (Path.join directory "results") ("results_" ++ label ++ "_" ++ moment.stamp ++ ".json")

/-- Why no validator was made. -/
inductive GenerationError where
  | noRules (label : String)
  | directory (path : String) (cause : FileError)
  | file (path : String) (cause : FileError)
deriving DecidableEq, Repr

def GenerationError.message : GenerationError → String
  | .noRules label => s!"no rules generated for phase {label}"
  | .directory path _ => s!"Failed to create directory: {path}"
  | .file path _ => s!"Failed to write file: {path}"

/-- Writes a text to a file. The directories it is in are made where they are missing. -/
def FileSystem.writeText (files : FileSystem) (path text : String) : Except GenerationError FileSystem := do
  let files ← match Path.parent? path with
    | none => .ok files
    | some above => (files.makeAll above).mapError (GenerationError.directory above)
  (files.write path text).mapError (GenerationError.file path)

/-- A validator and the places it was made for. -/
structure Generation where
  compilation : Compilation Float
  artifacts : Artifacts

namespace Generation

/-- The validator of a phase, which will be written below a directory under the given name or that of the phase. There
is none without rules. -/
def make (spec : Specification) (phase : Phase) (directory : String) (name : Option String) (moment : Moment) :
    Except GenerationError Generation :=
  let label := phase.label
  let name := name.getD phase.validatorName
  let rules := phase.rules moment.year.toInt32 spec
  let artifacts := Artifacts.below directory name label moment
  let compilation := Compilation.ofRules ⟨name, phase.describe spec, label, moment⟩ rules
  if rules.isEmpty then .error (.noRules label)
  else .ok {
    compilation := { compilation with
      manifest := { compilation.manifest with resultsPath := some artifacts.results } }
    artifacts := artifacts }

/-- Writes the manifest to its place. -/
def write (generation : Generation) (files : FileSystem) : Except GenerationError FileSystem :=
  files.writeText generation.artifacts.validator generation.compilation.manifest.write

end Generation

end Plumbline
