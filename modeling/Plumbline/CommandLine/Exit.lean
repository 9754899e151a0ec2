import Plumbline.Blueprint.Extraction
import Plumbline.CommandLine.Arguments
import Plumbline.Configuration
import Plumbline.Generation

namespace Plumbline.CommandLine

/-- What a command leaves behind: its exit code, what it prints and complains of, and the files. -/
structure Exit where
  code : Nat
  output : String
  complaint : String
  files : FileSystem

/-- An error and the errors behind it, the nearest first. -/
structure Failure where
  message : String
  causes : List String
deriving DecidableEq, Repr

namespace Failure

def ofBlueprint (e : BlueprintError) : Failure := ⟨e.message, match e with
  | .notFound _ => []
  | .unreadable _ cause => [cause.message]⟩

def ofConfiguration (e : ConfigurationError) : Failure := ⟨e.message, match e with
  | .unreadable _ cause => [cause.message]
  | .malformed _ | .unknownProfile .. => []⟩

def ofManifest (e : ManifestError) : Failure := ⟨e.message, match e with
  | .unreadable _ cause => [cause.message]
  | .malformed | .unsupportedFormat _ => []⟩

def ofContext (e : ContextError) : Failure := ⟨e.message, match e with
  | .unreadable _ cause => [cause.message]
  | .malformed _ => []⟩

def ofResults (e : ResultsError) : Failure := ⟨e.message, [e.cause.message]⟩

def ofGeneration (phase : Phase) (e : GenerationError) : Failure :=
  ⟨"Failed to generate the " ++ phase.label ++ " validator", e.message :: match e with
    | .noRules _ => []
    | .directory _ cause | .file _ cause => [cause.message]⟩

/-- A text whose further lines are indented like the first. -/
def indented (lead message : String) : String :=
  lead ++ String.ofList (message.toList.flatMap fun c =>
    if c = '\n' then c :: List.replicate lead.length ' ' else [c])

/-- Several causes are numbered. -/
def causeLines : List String → List String
  | [] => []
  | [cause] => ["", "Caused by:", indented "    " cause]
  | causes => "" :: "Caused by:" :: causes.zipIdx.map fun (cause, i) => indented ("    " ++ toString i ++ ": ") cause

def text (failure : Failure) : String :=
  String.join ((("Error: " ++ failure.message) :: causeLines failure.causes).map (· ++ "\n"))

/-- A command that fails may have printed something before. -/
def exit (failure : Failure) (output : String) (files : FileSystem) : Exit := ⟨1, output, failure.text, files⟩

end Failure

/-- A command whose arguments are refused. Help is no fault. -/
def Refusal.exit (refusal : Refusal) (usage : String) (files : FileSystem) : Exit :=
  if refusal = .help then ⟨0, usage, "", files⟩ else ⟨2, "", "error: " ++ refusal.message ++ "\n\n" ++ usage, files⟩

end Plumbline.CommandLine
