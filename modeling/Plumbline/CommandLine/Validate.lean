import Plumbline.CommandLine.Exit
import Plumbline.Report

namespace Plumbline.CommandLine.Validate

def usage : String :=
  "Usage: validate <MANIFEST> [--root <DIRECTORY>] [--profile <NAME>] [--config <FILE>] [--results <FILE>] [-v]...\n" ++
  "       validate --list-profiles [--config <FILE>]\n"

def grammar : Grammar where
  options := [("root", .path), ("profile", .text), ("config", .path), ("results", .path)]
  flags := ["list-profiles"]
  positions := [.path]

/-- A line about a profile, with a mark if it is the active one. -/
def profileLine (configuration : Configuration Float) (name : String) (profile : Profile Float) : String :=
  let threshold := Decimal.withPlaces 0 profile.minScoreThreshold
  "  " ++ Report.padded 20 name ++ " threshold " ++ "".pushn ' ' (3 - threshold.length) ++ threshold ++
    "%  penalty cap " ++ Decimal.withPlaces 1 profile.maxPenaltyFactor ++ "  " ++ profile.description ++
    if name = configuration.active then " *" else ""

def profileList (configuration : Configuration Float) : String :=
  String.join (("Validation profiles" :: "===================" ::
    configuration.profiles.entries.map fun (name, profile) => profileLine configuration name profile).map (· ++ "\n"))

/-- Writes results where they are asked for, or else to the place that the manifest names, if any. What is printed
follows what was printed before. -/
def conclude (files : FileSystem) (outcome : Outcome Float) (output : String) : Option String → Exit
  | none => ⟨outcome.verdict.exitCode, output, complaint outcome.verdict, files⟩
  | some path => match outcome.results.write files path with
    | .ok files =>
      ⟨outcome.verdict.exitCode, output ++ s!"Results written to {path}\n", complaint outcome.verdict, files⟩
    | .error e => (Failure.ofResults e).exit output files
where
  complaint (verdict : Verdict Float) : String :=
    if verdict.passed then ""
    else "Validation failed: score " ++ Report.exactPercent verdict.score ++ " below threshold " ++
      Report.wholePercent verdict.threshold ++ "\n"

/-- Carries a manifest out against a tree and reports what it finds. -/
def judge (files : FileSystem) (configuration : Configuration Float) (arguments : Arguments) (path : String) :
    Except Failure Exit := do
  let manifest ← (Manifest.load files path).mapError .ofManifest
  let site : Site := ⟨files, (arguments.value? "root").getD "."⟩
  let setting ← (Setting.make site configuration (arguments.value? "profile")).mapError .ofConfiguration
  match setting.validate? manifest with
  | none => return ⟨101, "", "the penalty cap is not a number\n", files⟩
  | some outcome =>
    let report := Report.render (manifest.name ++ " (" ++ manifest.description ++ ")") setting.profileName
      setting.profile outcome.results outcome.verdict outcome.skipped
    return conclude files outcome report ((arguments.value? "results").or manifest.resultsPath)

/-- Lists the profiles when no manifest is given, and else carries the manifest out. -/
def produce (files : FileSystem) (arguments : Arguments) (manifest : Option String) : Except Failure Exit := do
  let path := (arguments.value? "config").getD "validation_config.toml"
  let configuration ← (Configuration.load files path).mapError .ofConfiguration
  match manifest with
  | none => return ⟨0, profileList configuration, "", files⟩
  | some manifest => judge files configuration arguments manifest

/-- The command that carries validators out. -/
def run (files : FileSystem) (given : List String) : Exit :=
  match Arguments.read grammar given with
  | .error refusal => refusal.exit usage files
  | .ok arguments =>
    let listing := arguments.hasFlag "list-profiles"
    if !listing && arguments.positional.isEmpty then Refusal.missing.exit usage files
    else match produce files arguments (if listing then none else arguments.positional.head?) with
      | .ok done => done
      | .error failure => failure.exit "" files

end Plumbline.CommandLine.Validate
