import Plumbline.CommandLine.Exit

namespace Plumbline.CommandLine.Generate

def usage : String :=
  "Usage: generate <BLUEPRINT> <scaffold|target|integration|evolution> [--target-number <NUMBER>]\n" ++
  "         [--integration-phase <NAME>] [--context <FILE>] [--output-dir <DIRECTORY>] [--name <NAME>] [-v]...\n"

def grammar : Grammar where
  options := [
    ("target-number", .number (Nat.pow 2 32 - 1)), ("integration-phase", .text), ("context", .path), ("output-dir", .path),
    ("name", .text)]
  flags := []
  positions := [.path, .word ["scaffold", "target", "integration", "evolution"]]

/-- What a phase is about: what the file says, if one is given. -/
def context {α : Type} (read : Json → Option α) (usual : α) (files : FileSystem) (arguments : Arguments) :
    Except ContextError α :=
  match arguments.value? "context" with
  | none => .ok usual
  | some path => loadContext read files path

/-- The phase that arguments ask for. The skeleton has no context, so that a file for it is not even read. -/
def phase (files : FileSystem) (arguments : Arguments) (word : String) : Except ContextError Phase :=
  match word with
  | "target" =>
    let number := ((arguments.value? "target-number").bind natural?).getD 1
    (context Delivery.ofJson? .none files arguments).map (Phase.target number)
  | "integration" =>
    let name := (arguments.value? "integration-phase").getD "T1"
    (context Wiring.ofJson? .none files arguments).map (Phase.integration name)
  | "evolution" => (context Change.ofJson? .none files arguments).map Phase.evolution
  | _ => .ok .scaffold

/-- What is printed when a validator has been written. -/
def summary (extraction : Extraction) (phase : Phase) (generation : Generation) : String :=
  let spec := extraction.spec
  let compilation := generation.compilation
  let project := if spec.projectName.isEmpty then "Blueprint" else spec.projectName
  let validator := generation.artifacts.validator
  let lines := [
    project ++ ": " ++ toString spec.models.length ++ " models, " ++ toString spec.apps.length ++ " apps, " ++
      toString extraction.warnings.length ++ " warnings",
    "Phase " ++ phase.label ++ ": " ++ toString compilation.ruleCount ++ " rules"] ++
    (if compilation.dropped.isEmpty then [] else ["Dropped duplicates: " ++ ", ".intercalate compilation.dropped]) ++
    [s!"Validator: {validator}", "Results:   " ++ generation.artifacts.results, "", s!"Run: agv-validate {validator}"]
  String.join (lines.map (· ++ "\n"))

/-- Makes the validator of a phase from a blueprint and writes it. -/
def produce (files : FileSystem) (moment : Moment) (arguments : Arguments) (blueprint word : String) :
    Except Failure (String × FileSystem) := do
  let extraction ← (Blueprint.load files blueprint).mapError .ofBlueprint
  let phase ← (phase files arguments word).mapError .ofContext
  let directory := (arguments.value? "output-dir").getD "agv-outputs"
  let generation ← (Generation.make extraction.spec phase directory (arguments.value? "name") moment).mapError
    (.ofGeneration phase)
  let files ← (generation.write files).mapError (.ofGeneration phase)
  return (summary extraction phase generation, files)

/-- The command that makes validators, given at some moment. -/
def run (files : FileSystem) (moment : Moment) (given : List String) : Exit :=
  match Arguments.read grammar given with
  | .error refusal => refusal.exit usage files
  | .ok arguments => match arguments.positional with
    | [blueprint, word] => match produce files moment arguments blueprint word with
      | .ok (output, files) => ⟨0, output, "", files⟩
      | .error failure => failure.exit "" files
    | _ => Refusal.missing.exit usage files

end Plumbline.CommandLine.Generate
