import Plumbline.Configuration
import Plumbline.Registry

namespace Plumbline

/-- What a run goes by besides its rules. -/
structure Setting (α : Type) where
  site : Site
  configuration : Configuration α
  profileName : String
  profile : Profile α

/-- The setting of a profile, or of the active one. -/
def Setting.make {α : Type} (site : Site) (configuration : Configuration α) (profile : Option String) :
    Except ConfigurationError (Setting α) := do
  let (name, profile) ← configuration.profile profile
  return ⟨site, configuration, name, profile⟩

/-- The single issue of a rule that broke off. -/
def LinkedRule.breakdown (rule : LinkedRule) (reason : String) : Issue :=
  .make "validator" "validation_error" s!"Rule {rule.name} failed to run" "Validation must run without errors"
    s!"Error: {reason}" .critical

/-- The issues a rule finds by itself. -/
def LinkedRule.issues (rule : LinkedRule) (site : Site) : List Issue :=
  match rule.run site with
  | .ok issues => issues
  | .error reason => [rule.breakdown reason]

/-- What a run found, and how it was judged. -/
structure Outcome (α : Type) where
  results : Results α
  verdict : Verdict α
  weights : Weights α
  skipped : List String

namespace Setting

variable {α : Type}

/-- Whether an issue counts. That a rule broke off is never passed over. -/
def counts (setting : Setting α) (issue : Issue) : Bool :=
  issue.issueType == "validation_error" ||
    !(setting.configuration.tolerance.tolerates issue.issueType || setting.profile.waives issue)

/-- The issues of a rule that count, in the category of the rule. -/
def findings (setting : Setting α) (rule : LinkedRule) : List Issue :=
  ((rule.issues setting.site).filter setting.counts).map (·.inCategory rule.category)

def ignores (setting : Setting α) (rule : LinkedRule) : Bool := setting.configuration.ignores rule.name

def skipped (setting : Setting α) (rules : List LinkedRule) : List String :=
  (rules.filter setting.ignores).map LinkedRule.name

def tally (setting : Setting α) (rules : List LinkedRule) : Tally :=
  (rules.filter (!setting.ignores ·)).foldl (fun tally rule => tally.record (setting.findings rule)) .empty

variable [Scale α]

/-- Carries rules out one after another and judges what they find. There is no outcome when rules fail under a penalty
cap that is not a number. -/
def run? (setting : Setting α) (rules : List LinkedRule) (weights : Weights α) : Option (Outcome α) := do
  let weights := setting.configuration.weightsOver weights
  let tally := setting.tally rules
  let score ← Score.score? tally weights setting.profile.maxPenaltyFactor
  return {
    results := { tally with score := score }
    verdict := .compare score setting.profile.minScoreThreshold
    weights := weights
    skipped := setting.skipped rules }

/-- Links the rules of a manifest and carries them out. -/
def validate? (setting : Setting α) (manifest : Manifest α) : Option (Outcome α) :=
  setting.run? (Registry.link manifest.rules).rules manifest.weights

end Setting

end Plumbline
