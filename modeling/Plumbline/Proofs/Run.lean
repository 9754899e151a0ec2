import Plumbline.Proofs.Score

namespace Plumbline

namespace Setting

/-- Over exact numbers every run has an outcome. -/
theorem run?_eq (setting : Setting Rat) (rules : List LinkedRule) (weights : Weights Rat) :
    setting.run? rules weights =
      let weights := setting.configuration.weightsOver weights
      let score := Score.value weights setting.profile.maxPenaltyFactor (setting.tally rules)
      some {
        results := { setting.tally rules with score := score }
        verdict := .compare score setting.profile.minScoreThreshold
        weights := weights
        skipped := setting.skipped rules } := by
  simp only [run?, Score.score?_eq]
  rfl

/-- Of two runs of the same rules, the one that finds no more has no lower score, unless its penalty concentrates on the
rules that still fail. At the worst it keeps the share of rules that passed in the other, less the cap. -/
theorem score_of_fewer_findings {first second : Setting Rat} {rules : List LinkedRule} {weights : Weights Rat}
    (sameCap : second.profile.maxPenaltyFactor = first.profile.maxPenaltyFactor)
    (defaultWeights : first.configuration.weightsOver weights = .default)
    (defaultWeights' : second.configuration.weightsOver weights = .default)
    (sameRules : ∀ rule ∈ rules, second.ignores rule = first.ignores rule)
    (fewer : ∀ rule ∈ rules, first.ignores rule = false → (second.findings rule).Sublist (first.findings rule)) :
    ∃ before after, first.run? rules weights = some before ∧ second.run? rules weights = some after ∧
      (before.results.score ≤ after.results.score ∨
        Score.Concentrates .default first.profile.maxPenaltyFactor before.results.toTally after.results.toTally) ∧
      Scale.roundHundredths
          (before.results.passed / before.results.total * 100 * (1 - Score.ceiling first.profile.maxPenaltyFactor)) ≤
        after.results.score := by
  have eases := tally_eases sameRules fewer
  have counted := tally_counted first rules
  have counted' := tally_counted second rules
  refine ⟨_, _, run?_eq first rules weights, run?_eq second rules weights, ?_, ?_⟩
  · rw [defaultWeights, defaultWeights', sameCap]
    rcases le_or_gt (Score.value .default first.profile.maxPenaltyFactor (first.tally rules))
      (Score.value .default first.profile.maxPenaltyFactor (second.tally rules)) with holds | drops
    · exact .inl holds
    · exact .inr (Score.concentrates_of_value_lt Weights.default_penalty_nonneg eases counted counted' drops)
  · rw [sameCap]
    exact Score.floor_le_value eases counted

/-- A rule that finds the same issues everywhere. -/
def sampleRule (name : String) (category : Category) (issues : List Issue) : LinkedRule :=
  ⟨name, "", .low, category, fun _ => .ok issues⟩

/-- Five rules that find nothing, one whose issue weighs four points and one whose issue weighs one. -/
def sampleRules : List LinkedRule :=
  ["a", "b", "c", "d", "e"].map (sampleRule · .layout []) ++
    [sampleRule "models" .models [.make "models.py" "missing_file" "" "" "" .medium],
      sampleRule "docker" .layout [.make "Dockerfile" "missing_docker_file" "" "" "" .low]]

def sampleSetting (missingDocker : Bool) : Setting Rat where
  site := ⟨⟨.directory [], []⟩, "."⟩
  configuration := { Configuration.default with tolerance := { Tolerance.none with missingDocker := missingDocker } }
  profileName := "sample"
  profile := .default

theorem sampleRules_carried_out :
    ∀ rule ∈ sampleRules, (sampleSetting true).ignores rule = (sampleSetting false).ignores rule := by decide

theorem sampleRules_fewer :
    ∀ rule ∈ sampleRules, (sampleSetting false).ignores rule = false →
      ((sampleSetting true).findings rule).Sublist ((sampleSetting false).findings rule) := by decide

/-- Passing over the lighter of two issues leaves the heavier one to a single failed rule, and lowers the score. -/
theorem fewer_findings_can_lower_score :
    ¬ ∀ (first second : Setting Rat) (rules : List LinkedRule), second.profile = first.profile →
      first.configuration.weightsOver .default = .default → second.configuration.weightsOver .default = .default →
      (∀ rule ∈ rules, second.ignores rule = first.ignores rule) →
      (∀ rule ∈ rules, first.ignores rule = false → (second.findings rule).Sublist (first.findings rule)) →
      ∀ before ∈ first.run? rules .default, ∀ after ∈ second.run? rules .default,
        before.results.score ≤ after.results.score := by
  intro never
  have kept := never (sampleSetting false) (sampleSetting true) sampleRules rfl rfl rfl sampleRules_carried_out
    sampleRules_fewer _ (run?_eq ..) _ (run?_eq ..)
  exact absurd kept (by decide +kernel)

/-- What holds of the two runs of the sample rules. -/
theorem score_of_sampleRules :
    ∃ before after, (sampleSetting false).run? sampleRules .default = some before ∧
      (sampleSetting true).run? sampleRules .default = some after ∧
      (before.results.score ≤ after.results.score ∨
        Score.Concentrates .default (1 / 2) before.results.toTally after.results.toTally) ∧
      Scale.roundHundredths (before.results.passed / before.results.total * 100 * (1 - Score.ceiling (1 / 2))) ≤
        after.results.score :=
  score_of_fewer_findings rfl rfl rfl sampleRules_carried_out sampleRules_fewer

end Setting

end Plumbline
