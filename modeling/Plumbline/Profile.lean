import Plumbline.Score

namespace Plumbline

/-- What a run must reach in order to pass, and what it may leave out. -/
structure Profile (α : Type) where
  description : String
  minScoreThreshold : α
  maxPenaltyFactor : α
  requiredCategories : List Category
  focusCategories : List Category
  /-- Files that may be missing. -/
  ignoreMissingFiles : List String
deriving DecidableEq, Repr

namespace Profile

variable {α : Type}

/-- Whether an issue only says that a file is missing which may be. -/
def waives (profile : Profile α) (issue : Issue) : Bool :=
  issue.issueType == "missing_file" &&
    profile.ignoreMissingFiles.any fun name => Text.endsWith name.toList issue.filePath.toList

variable [Scale α]

def default : Profile α where
  description := ""
  minScoreThreshold := Scale.natural 75
  maxPenaltyFactor := Scale.ratio 1 2
  requiredCategories := []
  focusCategories := []
  ignoreMissingFiles := []

/-- A profile with a threshold in percent and a cap in tenths. -/
def graded (description : String) (threshold cap : Nat) (required : List Category) : Profile α where
  description := description
  minScoreThreshold := Scale.natural threshold
  maxPenaltyFactor := Scale.ratio cap 10
  requiredCategories := required
  focusCategories := []
  ignoreMissingFiles := []

/-- The profiles that are always there. -/
def builtin : NameMap (Profile α) := .ofList [
  ("permissive", graded "Early prototypes" 60 3 [.layout]),
  ("development", graded "Initial development" 65 3 [.layout, .models]),
  ("moderate", graded "General use" 75 5 [.layout, .content, .models]),
  ("ci_cd", graded "CI/CD pipelines" 75 5 [.layout, .content, .models]),
  ("production", graded "Production deploys" 85 7 Category.all),
  ("strict", graded "Rigorous review" 90 8 Category.all),
  ("architecture_review", graded "Architecture review" 95 9 Category.all)]

def toJson (profile : Profile Float) : Json := .object [
  ("description", .string profile.description), ("min_score_threshold", .float profile.minScoreThreshold),
  ("max_penalty_factor", .float profile.maxPenaltyFactor),
  ("required_categories", .array (profile.requiredCategories.map Category.toJson)),
  ("focus_categories", .array (profile.focusCategories.map Category.toJson)),
  ("ignore_missing_files", .strings profile.ignoreMissingFiles)]

def read? (manner : Json.Manner) (v : Json) : Option (Profile Float) := do
  let [description, threshold, cap, required, focus, ignored] ← v.recordIn? manner
    ["description", "min_score_threshold", "max_penalty_factor", "required_categories", "focus_categories",
      "ignore_missing_files"] | none
  let fallback : Profile Float := Profile.default
  return {
    description := ← description.withDefault Json.text? fallback.description
    minScoreThreshold := ← threshold.withDefault Json.double? fallback.minScoreThreshold
    maxPenaltyFactor := ← cap.withDefault Json.double? fallback.maxPenaltyFactor
    requiredCategories := ← required.withDefault (Json.list? (Category.read? manner)) []
    focusCategories := ← focus.withDefault (Json.list? (Category.read? manner)) []
    ignoreMissingFiles := ← ignored.withDefault (Json.list? Json.text?) [] }

def ofJson? (v : Json) : Option (Profile Float) := read? .plain v

end Profile

/-- Families of issues that a run may pass over. -/
structure Tolerance where
  missingDocumentation : Bool
  missingCiCd : Bool
  missingDocker : Bool
deriving DecidableEq, Repr

namespace Tolerance

def none : Tolerance := ⟨false, false, false⟩

def documentationTypes : List String :=
  ["missing_documentation", "missing_docstring", "missing_readme_section", "incomplete_documentation",
    "insufficient_documentation"]

def ciTypes : List String := ["missing_ci_pipeline", "missing_ci_step"]

def tolerates (tolerance : Tolerance) (issueType : String) : Bool :=
  tolerance.missingDocumentation && documentationTypes.contains issueType ||
    tolerance.missingCiCd && ciTypes.contains issueType ||
    tolerance.missingDocker && issueType == "missing_docker_file"

def toJson (tolerance : Tolerance) : Json := .object [
  ("missing_documentation", .bool tolerance.missingDocumentation), ("missing_ci_cd", .bool tolerance.missingCiCd),
  ("missing_docker", .bool tolerance.missingDocker)]

def read? (manner : Json.Manner) (v : Json) : Option Tolerance := do
  let [documentation, ci, docker] ←
    v.recordIn? manner ["missing_documentation", "missing_ci_cd", "missing_docker"] | .none
  return {
    missingDocumentation := ← documentation.withDefault Json.flag? false
    missingCiCd := ← ci.withDefault Json.flag? false
    missingDocker := ← docker.withDefault Json.flag? false }

def ofJson? (v : Json) : Option Tolerance := read? .plain v

end Tolerance

end Plumbline
