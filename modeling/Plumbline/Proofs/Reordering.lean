import Plumbline.Proofs.Compilation
import Plumbline.Proofs.Run

namespace Plumbline

theorem PerCategory.ext_of {α : Type} {table table' : PerCategory α} (same : ∀ c, table.of c = table'.of c) :
    table = table' := by
  obtain ⟨layout, content, models, dependencies, api⟩ := table
  obtain ⟨layout', content', models', dependencies', api'⟩ := table'
  obtain rfl : layout = layout' := same .layout
  obtain rfl : content = content' := same .content
  obtain rfl : models = models' := same .models
  obtain rfl : dependencies = dependencies' := same .dependencies
  obtain rfl : api = api' := same .api
  rfl

/-- Over exact numbers the order of the issues takes no part in their penalty. -/
theorem Weights.totalPenalty_perm {weights : Weights Rat} {issues issues' : List Issue} (perm : issues.Perm issues') :
    weights.totalPenalty issues = weights.totalPenalty issues' := by
  rw [totalPenalty_eq_sum, totalPenalty_eq_sum]
  exact (perm.map weights.penalty).sum_eq

/-- Tallies that differ in nothing but the order of their issues. -/
structure Tally.Reorders (tally tally' : Tally) : Prop where
  total : tally.total = tally'.total
  passed : tally.passed = tally'.passed
  failed : tally.failed = tally'.failed
  categories : tally.categories = tally'.categories
  issues : tally.issues.Perm tally'.issues

/-- Issues in another order score the same. -/
theorem Tally.Reorders.value {tally tally' : Tally} (reorders : tally.Reorders tally') (weights : Weights Rat)
    (cap : Rat) : Score.value weights cap tally = Score.value weights cap tally' := by
  have penalty : weights.totalPenalty tally.issues = weights.totalPenalty tally'.issues :=
    Weights.totalPenalty_perm reorders.issues
  unfold Score.value Score.exact Score.factor Score.strain
  rw [penalty, reorders.failed, reorders.passed, reorders.total]

/-- Outcomes that differ in nothing but the order of the issues and of the rules that were left out. -/
structure Outcome.Reorders {α : Type} (outcome outcome' : Outcome α) : Prop where
  tally : outcome.results.toTally.Reorders outcome'.results.toTally
  score : outcome.results.score = outcome'.results.score
  verdict : outcome.verdict = outcome'.verdict
  weights : outcome.weights = outcome'.weights
  skipped : outcome.skipped.Perm outcome'.skipped

namespace Registry

/-- Rules of different names are all linked, in their order. -/
theorem rules_link_of_nodup {rules : List Rule} (distinct : (rules.map Rule.name).Nodup) :
    (link rules).rules = rules.map .ofRule := by
  rw [rules_link, Compilation.sift_of_nodup distinct fun _ _ => List.not_mem_nil]

theorem link_perm {rules rules' : List Rule} (distinct : (rules.map Rule.name).Nodup) (perm : rules.Perm rules') :
    (link rules).rules.Perm (link rules').rules := by
  have distinct' : (rules'.map Rule.name).Nodup := (perm.map Rule.name).nodup_iff.mp distinct
  rw [rules_link_of_nodup distinct, rules_link_of_nodup distinct']
  exact perm.map LinkedRule.ofRule

end Registry

namespace Setting

section Reordered

variable {α : Type} (setting : Setting α) {rules rules' : List LinkedRule}

theorem executed_perm (perm : rules.Perm rules') : (setting.executed rules).Perm (setting.executed rules') :=
  perm.filter _

theorem skipped_perm (perm : rules.Perm rules') : (setting.skipped rules).Perm (setting.skipped rules') :=
  (perm.filter _).map _

theorem found_perm (perm : rules.Perm rules') : (setting.found rules).Perm (setting.found rules') :=
  (setting.executed_perm perm).flatMap_right _

/-- What a rule adds to a tally does not hang on the rules in front of it. -/
theorem tally_reorders (perm : rules.Perm rules') : (setting.tally rules).Reorders (setting.tally rules') := by
  have executed := setting.executed_perm perm
  have issues : (setting.tally rules).issues.Perm (setting.tally rules').issues := by
    rw [tally_issues, tally_issues]
    exact setting.found_perm perm
  refine ⟨?_, ?_, ?_, PerCategory.ext_of fun c => ?_, issues⟩
  · rw [tally_total, tally_total, executed.length_eq]
  · rw [tally_passed, tally_passed, executed.countP_eq]
  · rw [tally_failed, tally_failed, executed.countP_eq]
  · rw [(setting.tally_accounts rules).buckets, (setting.tally_accounts rules').buckets, issues.countP_eq]

end Reordered

variable {setting : Setting Rat}

/-- Over exact numbers rules come to the same outcome in every order. -/
theorem run?_reorders {rules rules' : List LinkedRule} (perm : rules.Perm rules') (weights : Weights Rat) :
    ∃ outcome outcome', setting.run? rules weights = some outcome ∧ setting.run? rules' weights = some outcome' ∧
      outcome.Reorders outcome' := by
  have tally := setting.tally_reorders perm
  have score := tally.value (setting.configuration.weightsOver weights) setting.profile.maxPenaltyFactor
  refine ⟨_, _, run?_eq setting rules weights, run?_eq setting rules' weights, ?_⟩
  exact ⟨tally, score, congrArg (Verdict.compare · setting.profile.minScoreThreshold) score, rfl,
    setting.skipped_perm perm⟩

/-- Over exact numbers the order in which a manifest lists rules of different names does not matter to the verdict. -/
theorem validate?_reorders {manifest : Manifest Rat} {rules : List Rule}
    (distinct : (manifest.rules.map Rule.name).Nodup) (perm : manifest.rules.Perm rules) :
    ∃ outcome outcome', setting.validate? manifest = some outcome ∧
      setting.validate? { manifest with rules := rules } = some outcome' ∧ outcome.Reorders outcome' :=
  run?_reorders (Registry.link_perm distinct perm) manifest.weights

/-- A manifest of three rules, one of which fails and one of which is left out. -/
def threeRules : Manifest Rat where
  format := Manifest.supportedFormat
  name := "sample"
  description := ""
  phase := ""
  generatedAt := ""
  resultsPath := none
  weights := .default
  rules := [⟨"a", "", .low, .layout, .requiredPaths ⟨["missing"]⟩⟩, ⟨"b", "", .low, .api, .requiredPaths ⟨[]⟩⟩,
    ⟨"c", "", .low, .models, .requiredPaths ⟨["missing"]⟩⟩]

/-- The three rules backwards. -/
theorem validate?_reorders_threeRules :
    let setting : Setting Rat :=
      { sampleSetting false with configuration := { Configuration.default with ignored := ["c"] } }
    (threeRules.rules.map Rule.name).Nodup ∧
      ∃ outcome outcome', setting.validate? threeRules = some outcome ∧
        setting.validate? { threeRules with rules := threeRules.rules.reverse } = some outcome' ∧
        outcome.Reorders outcome' :=
  ⟨by decide, validate?_reorders (by decide) (List.reverse_perm threeRules.rules).symm⟩

end Setting

end Plumbline
