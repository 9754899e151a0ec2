import Mathlib.Logic.Relation
import Plumbline.Proofs.Bounds

namespace Plumbline

namespace Weights

/-- One step by which a list of issues gets no lighter: an issue is put in somewhere, or one gives way to another that
weighs at least as much. -/
inductive Aggravates (weights : Weights Rat) : List Issue → List Issue → Prop
  | insert (before : List Issue) (issue : Issue) (after : List Issue) :
      Aggravates weights (before ++ after) (before ++ issue :: after)
  | replace (before : List Issue) {issue other : Issue} (after : List Issue)
      (heavier : weights.penalty issue ≤ weights.penalty other) :
      Aggravates weights (before ++ issue :: after) (before ++ other :: after)

variable {weights : Weights Rat}

theorem penalty_nonneg (severities : ∀ severity, 0 ≤ weights.severity.of severity)
    (categories : ∀ category, 0 ≤ weights.category.of category) (issue : Issue) : 0 ≤ weights.penalty issue :=
  mul_nonneg (severities issue.severity) (categories issue.category)

theorem totalPenalty_around (weights : Weights Rat) (before : List Issue) (issue : Issue) (after : List Issue) :
    weights.totalPenalty (before ++ issue :: after) =
      weights.totalPenalty before + (weights.penalty issue + weights.totalPenalty after) := by
  simp only [totalPenalty_eq_sum, List.map_append, List.map_cons, List.sum_append, List.sum_cons]

theorem Aggravates.totalPenalty_le (nonneg : ∀ issue, 0 ≤ weights.penalty issue) {lighter heavier : List Issue}
    (step : weights.Aggravates lighter heavier) : weights.totalPenalty lighter ≤ weights.totalPenalty heavier := by
  cases step with
  | insert before issue after =>
    have whole : weights.totalPenalty (before ++ after) = weights.totalPenalty before + weights.totalPenalty after := by
      simp only [totalPenalty_eq_sum, List.map_append, List.sum_append]
    have added := nonneg issue
    rw [whole, totalPenalty_around]
    linarith
  | replace before after heavier =>
    rw [totalPenalty_around, totalPenalty_around]
    linarith

theorem totalPenalty_le_of_aggravated (nonneg : ∀ issue, 0 ≤ weights.penalty issue) {lighter heavier : List Issue}
    (aggravated : Relation.ReflTransGen weights.Aggravates lighter heavier) :
    weights.totalPenalty lighter ≤ weights.totalPenalty heavier := by
  induction aggravated with
  | refl => exact le_rfl
  | tail _ step ih => exact ih.trans (step.totalPenalty_le nonneg)

end Weights

namespace Score

variable {weights : Weights Rat} {lighter heavier : Tally}

/-- Among as many rules, passed and failed, a heavier penalty leaves no higher score. -/
theorem value_anti (cap : Rat) (total : lighter.total = heavier.total) (passed : lighter.passed = heavier.passed)
    (failed : lighter.failed = heavier.failed)
    (heavy : weights.totalPenalty lighter.issues ≤ weights.totalPenalty heavier.issues) :
    value weights cap heavier ≤ value weights cap lighter := by
  have taken := factor_mono cap (strain_le failed heavy)
  have sameBase : (base lighter : Rat) = base heavier := by rw [base, base, total, passed]
  have remains : exact weights cap heavier ≤ exact weights cap lighter := by
    rw [exact_eq, exact_eq, sameBase]
    exact mul_le_mul_of_nonneg_left (by linarith) (base_nonneg heavier)
  unfold value
  rw [failed]
  split
  · exact le_rfl
  · exact Scale.roundHundredths_mono (exact_nonneg weights cap heavier) remains

/-- Under weights that are not below nought, further issues and heavier ones never raise the score of as many rules. -/
theorem score_anti (severities : ∀ severity, 0 ≤ weights.severity.of severity)
    (categories : ∀ category, 0 ≤ weights.category.of category) (cap : Rat)
    (total : lighter.total = heavier.total) (passed : lighter.passed = heavier.passed)
    (failed : lighter.failed = heavier.failed)
    (aggravated : Relation.ReflTransGen weights.Aggravates lighter.issues heavier.issues) :
    ∃ before after, score? lighter weights cap = some before ∧ score? heavier weights cap = some after ∧
      after ≤ before := by
  have heavy := Weights.totalPenalty_le_of_aggravated (Weights.penalty_nonneg severities categories) aggravated
  exact ⟨_, _, score?_eq weights cap lighter, score?_eq weights cap heavier, value_anti cap total passed failed heavy⟩

/-- One rule passed and one failed with these issues. -/
def failedWith (issues : List Issue) : Tally := Tally.empty.recordPass.recordFailure issues

/-- A note of little weight, and a failure that weighs more. -/
def lightIssue : Issue := .make "README.md" "missing_readme_section" "" "" "" .low

def graveIssue : Issue := .make "models.py" "missing_model" "" "" "" .critical

theorem lightIssue_lighter :
    (Weights.default : Weights Rat).penalty lightIssue ≤ Weights.default.penalty graveIssue := by
  decide +kernel

theorem aggravated_lightIssue :
    Relation.ReflTransGen (Weights.default : Weights Rat).Aggravates [lightIssue] [graveIssue, lightIssue] :=
  .tail (.single (.insert [lightIssue] lightIssue [])) (.replace [] [lightIssue] lightIssue_lighter)

/-- The score does not rise when a second issue is found and the first turns out to be graver. -/
theorem score_anti_of_graver_issue :
    ∃ before after, score? (failedWith [lightIssue]) (.default : Weights Rat) (1 / 2) = some before ∧
      score? (failedWith [graveIssue, lightIssue]) (.default : Weights Rat) (1 / 2) = some after ∧ after ≤ before := by
  have severities : ∀ severity, (0 : Rat) ≤ (Weights.default : Weights Rat).severity.of severity := by
    intro severity
    cases severity <;> decide
  have categories : ∀ category, (0 : Rat) ≤ (Weights.default : Weights Rat).category.of category := by
    intro category
    cases category <;> decide +kernel
  exact score_anti severities categories (1 / 2) rfl rfl rfl aggravated_lightIssue

end Score

end Plumbline
