import Plumbline.Proofs.Accounting
import Plumbline.Proofs.Bounds
import Plumbline.Proofs.Run

namespace Plumbline

/-- Issues that weigh one point each at least weigh as many points as there are issues. -/
theorem Weights.length_le_totalPenalty {weights : Weights Rat} (heavy : ∀ issue, 1 ≤ weights.penalty issue)
    (issues : List Issue) : (issues.length : Rat) ≤ weights.totalPenalty issues := by
  rw [totalPenalty_eq_sum]
  induction issues with
  | nil => simp
  | cons issue rest ih =>
    have here := heavy issue
    rw [List.map_cons, List.sum_cons, List.length_cons]
    push_cast
    linarith

namespace Score

variable {weights : Weights Rat} {cap : Rat} {tally : Tally}

/-- Every failed rule leaves an issue, and with it a tenth of the score is gone at least. -/
theorem tenth_le_factor (heavy : ∀ issue, 1 ≤ weights.penalty issue) (capped : 1 / 10 ≤ cap)
    (accounts : tally.Accounts) (failed : tally.failed ≠ 0) : 1 / 10 ≤ factor weights cap tally := by
  have positive : (0 : Rat) < tally.failed * 10 := by
    have := Nat.pos_of_ne_zero failed
    positivity
  have issues : (tally.failed : Rat) ≤ weights.totalPenalty tally.issues := by
    have left : (tally.failed : Rat) ≤ tally.issues.length := by exact_mod_cast accounts.failed
    exact left.trans (Weights.length_le_totalPenalty heavy tally.issues)
  have strained : 1 / 10 ≤ strain weights tally := by
    rw [strain, le_div_iff₀ positive]
    linarith
  have most : 1 / 10 ≤ ceiling cap := le_max_of_le_right (le_min capped (by norm_num))
  exact le_max_of_le_right (le_min strained most)

/-- Of a run in which a rule failed no more than ninety points are left. -/
theorem value_le_ninety (heavy : ∀ issue, 1 ≤ weights.penalty issue) (capped : 1 / 10 ≤ cap)
    (accounts : tally.Accounts) (failed : tally.failed ≠ 0) : value weights cap tally ≤ 90 := by
  have tenth := tenth_le_factor heavy capped accounts failed
  have whole : (base tally : Rat) ≤ 100 := base_le_hundred accounts.counted
  have remains : exact weights cap tally ≤ 90 :=
    calc exact weights cap tally = base tally * (1 - factor weights cap tally) := exact_eq weights cap tally
      _ ≤ base tally * (9 / 10) := mul_le_mul_of_nonneg_left (by linarith) (base_nonneg tally)
      _ ≤ 90 := by linarith
  have rounded := Scale.roundHundredths_mono (exact_nonneg weights cap tally) remains
  rw [value_of_failed failed]
  exact rounded.trans (by decide +kernel)

end Score

namespace Setting

variable {setting : Setting Rat} {weights : Weights Rat}

/-- Above ninety points only a run without failures passes, whatever rules it carries out. -/
theorem passed_run_iff (rules : List LinkedRule)
    (heavy : ∀ issue, 1 ≤ (setting.configuration.weightsOver weights).penalty issue)
    (strict : 90 < setting.profile.minScoreThreshold) (reachable : setting.profile.minScoreThreshold ≤ 100)
    (capped : 1 / 10 ≤ setting.profile.maxPenaltyFactor) :
    ∃ outcome, setting.run? rules weights = some outcome ∧ outcome.results.toTally = setting.tally rules ∧
      (outcome.verdict.passed = true ↔ (setting.tally rules).failed = 0) := by
  refine ⟨_, run?_eq setting rules weights, rfl, ?_⟩
  change decide (setting.profile.minScoreThreshold ≤ _) = true ↔ _
  rw [decide_eq_true_iff]
  by_cases failed : (setting.tally rules).failed = 0
  · have full : Score.value (setting.configuration.weightsOver weights) setting.profile.maxPenaltyFactor
        (setting.tally rules) = 100 := if_pos failed
    rw [full]
    exact iff_of_true reachable failed
  · have low := Score.value_le_ninety heavy capped (tally_accounts setting rules) failed
    exact iff_of_false (by linarith) failed

/-- When every issue weighs a point and the threshold is above ninety, a manifest passes exactly when none of the rules
carried out fails. -/
theorem passed_validate_iff (setting : Setting Rat) (manifest : Manifest Rat)
    (heavy : ∀ severity category, 1 ≤ (setting.configuration.weightsOver manifest.weights).severity.of severity *
      (setting.configuration.weightsOver manifest.weights).category.of category)
    (strict : 90 < setting.profile.minScoreThreshold) (reachable : setting.profile.minScoreThreshold ≤ 100)
    (capped : 1 / 10 ≤ setting.profile.maxPenaltyFactor) :
    ∃ outcome, setting.validate? manifest = some outcome ∧
      (outcome.verdict.passed = true ↔ outcome.results.failed = 0) ∧
      (outcome.results.failed = 0 ↔
        ∀ rule ∈ setting.executed (Registry.link manifest.rules).rules, setting.passes rule = true) := by
  have issues : ∀ issue, 1 ≤ (setting.configuration.weightsOver manifest.weights).penalty issue :=
    fun issue => heavy issue.severity issue.category
  obtain ⟨outcome, ran, tally, passed⟩ :=
    passed_run_iff (Registry.link manifest.rules).rules issues strict reachable capped
  refine ⟨outcome, ran, ?_, ?_⟩
  · rw [passed, tally]
  · rw [tally, tally_failed_eq_zero_iff]

/-- A review that asks for 95 points, in an empty tree. -/
def reviewSetting : Setting Rat where
  site := ⟨⟨.directory [], []⟩, "."⟩
  configuration := .default
  profileName := "architecture_review"
  profile := .graded "Architecture review" 95 9 Category.all

/-- A manifest with one check, which passes everywhere. -/
def idleManifest : Manifest Rat :=
  ⟨"", "", "", "", "", none, .default, [⟨"apps", "", .low, .layout, .appStructure ⟨[], [], false⟩⟩]⟩

theorem passed_validate_of_idleManifest :
    ∃ outcome, reviewSetting.validate? idleManifest = some outcome ∧ outcome.verdict.passed = true := by
  have heavy : ∀ severity category, (1 : Rat) ≤
      (reviewSetting.configuration.weightsOver idleManifest.weights).severity.of severity *
        (reviewSetting.configuration.weightsOver idleManifest.weights).category.of category := by
    intro severity category
    cases severity <;> cases category <;> decide +kernel
  obtain ⟨outcome, ran, passed, clean⟩ := passed_validate_iff reviewSetting idleManifest heavy (by decide)
    (by decide +kernel) (by decide +kernel)
  exact ⟨outcome, ran, passed.mpr (clean.mpr (by decide))⟩

end Setting

end Plumbline
