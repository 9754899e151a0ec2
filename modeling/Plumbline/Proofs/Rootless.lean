import Plumbline.Proofs.Check.Totality
import Plumbline.Proofs.Compilation
import Plumbline.Proofs.Isolation

namespace Plumbline

namespace CheckSpec

variable {check : CheckSpec} {site : Site}

/-- An idle check passes everywhere. -/
theorem run_of_isIdle (idle : check.isIdle = true) (site : Site) : check.run site = .ok [] := by
  cases check with
  | appStructure check =>
    have none : check.apps = [] := List.isEmpty_iff.mp idle
    simp only [run, Check.AppStructure.run, none, List.mapM_nil]
    rfl
  | testLayout check =>
    have none : check.apps = [] := List.isEmpty_iff.mp idle
    simp only [run, Check.TestLayout.run, none, List.mapM_nil]
    rfl
  | _ => exact absurd idle Bool.false_ne_true

/-- Without a root, a check that is not idle breaks off: over the first of its patterns that does not compile, or over
the root. -/
theorem run_of_not_hasRoot (rootless : site.hasRoot = false) (busy : check.isIdle = false) :
    check.run site = .error ((check.patterns.findSome? PathPattern.fault?).getD (.rootMissing site.root)) := by
  rw [← failure?_eq_some_iff, failure?_run, busy, Site.obstacle?_of_not_hasRoot rootless]
  rfl

end CheckSpec

namespace Setting

section Rule

variable {α : Type} {setting : Setting α} {rule : Rule}

theorem passes_of_isIdle (idle : rule.check.isIdle = true) : setting.passes (.ofRule rule) = true := by
  have ran : (LinkedRule.ofRule rule).run setting.site = .ok [] := by
    simp only [LinkedRule.ofRule, CheckSpec.run_of_isIdle idle]
    rfl
  rw [passes, findings, LinkedRule.issues, ran]
  rfl

/-- One critical issue in the category of a rule says that the rule broke off. -/
structure ReportsBreakdown (rule : Rule) (issue : Issue) : Prop where
  issueType : issue.issueType = "validation_error"
  severity : issue.severity = .critical
  category : issue.category = rule.category

theorem findings_of_not_hasRoot (rootless : setting.site.hasRoot = false) (busy : rule.check.isIdle = false) :
    ∃ issue, ReportsBreakdown rule issue ∧ setting.findings (.ofRule rule) = [issue] := by
  have broke := congrArg (Except.mapError CheckError.message) (CheckSpec.run_of_not_hasRoot rootless busy)
  exact ⟨_, ⟨rfl, rfl, rfl⟩, findings_of_error broke⟩

theorem passes_of_not_hasRoot (rootless : setting.site.hasRoot = false) :
    setting.passes (.ofRule rule) = rule.check.isIdle := by
  cases busy : rule.check.isIdle with
  | true => exact passes_of_isIdle busy
  | false =>
    obtain ⟨issue, _, alone⟩ := findings_of_not_hasRoot rootless busy
    rw [passes, alone]
    rfl

theorem flatMap_findings_of_not_hasRoot (rootless : setting.site.hasRoot = false) (rules : List Rule) :
    List.Forall₂ ReportsBreakdown (rules.filter (!·.check.isIdle))
      ((rules.map LinkedRule.ofRule).flatMap setting.findings) := by
  induction rules with
  | nil => exact .nil
  | cons rule rest ih =>
    rw [List.map_cons, List.flatMap_cons]
    cases busy : rule.check.isIdle with
    | true =>
      have none : setting.findings (.ofRule rule) = [] := List.isEmpty_iff.mp (passes_of_isIdle busy)
      rw [List.filter_cons_of_neg (by simp [busy]), none]
      exact ih
    | false =>
      obtain ⟨issue, reports, alone⟩ := findings_of_not_hasRoot rootless busy
      rw [List.filter_cons_of_pos (by simp [busy]), alone]
      exact .cons reports ih

end Rule

/-- What an outcome shows when there is no root: one breakdown for each rule carried out that is not idle, and no other
rule but idle ones passed. -/
structure ShowsRootless {α : Type} (setting : Setting α) (manifest : Manifest α) (outcome : Outcome α) : Prop where
  issues : List.Forall₂ ReportsBreakdown ((setting.carriedOut manifest).filter (!·.check.isIdle))
    outcome.results.issues
  total : outcome.results.total = (setting.carriedOut manifest).length
  passed : outcome.results.passed = (setting.carriedOut manifest).countP (·.check.isIdle)
  failed : outcome.results.failed = (setting.carriedOut manifest).countP (!·.check.isIdle)

theorem showsRootless {α : Type} [Scale α] {setting : Setting α} {manifest : Manifest α} {outcome : Outcome α}
    (rootless : setting.site.hasRoot = false) (ran : setting.validate? manifest = some outcome) :
    setting.ShowsRootless manifest outcome := by
  have all := shows_of_run? ran
  have passing : setting.passes ∘ LinkedRule.ofRule = fun rule => rule.check.isIdle :=
    funext fun rule => passes_of_not_hasRoot rootless
  refine ⟨?_, ?_, ?_, ?_⟩
  · rw [all.issues, found, executed_link]
    exact flatMap_findings_of_not_hasRoot rootless (setting.carriedOut manifest)
  · rw [all.total, executed_link, List.length_map]
  · rw [all.passed, executed_link, List.countP_map, passing]
  · rw [all.failed, executed_link, List.countP_map]
    exact List.countP_congr fun rule _ => by rw [← congrFun passing rule]; rfl

/-- Without a root every check breaks off, over the first of its patterns that does not compile or else over the root,
and each rule that is carried out is one critical issue. Only checks of no applications pass. There is no outcome when a
rule fails under a cap that is not a number. -/
theorem validate?_of_not_hasRoot {setting : Setting Float} (rootless : setting.site.hasRoot = false)
    (manifest : Manifest Float) :
    (∀ check : CheckSpec, check.run setting.site =
      if check.isIdle then .ok []
      else .error ((check.patterns.findSome? PathPattern.fault?).getD (.rootMissing setting.site.root))) ∧
    ((setting.validate? manifest).isSome = true ↔
      (∀ rule ∈ setting.carriedOut manifest, rule.check.isIdle = true) ∨
        setting.profile.maxPenaltyFactor.isNaN = false) ∧
    ∀ outcome ∈ setting.validate? manifest, setting.ShowsRootless manifest outcome := by
  refine ⟨fun check => ?_, ?_, fun outcome ran => showsRootless rootless ran⟩
  · split
    · rename_i idle
      exact CheckSpec.run_of_isIdle idle setting.site
    · rename_i busy
      exact CheckSpec.run_of_not_hasRoot rootless (Bool.eq_false_iff.mpr busy)
  · rw [validate?, isSome_run?_iff, executed_link, List.forall_mem_map]
    simp only [passes_of_not_hasRoot rootless]

/-- A root that is nowhere. -/
def nowhere : Site := ⟨⟨.directory [], []⟩, "missing"⟩

theorem hasRoot_nowhere : nowhere.hasRoot = false := by
  have pieces : Path.pieces "missing" = ["missing"] := by decide
  have lost : nowhere.files.locate nowhere.root = .error .notFound := by
    rw [FileSystem.locate, nowhere, String.contains_char_eq, if_neg (by decide), if_neg (by decide),
      if_neg (by decide), pieces]
    decide
  have none : nowhere.files.node? nowhere.root = none := by rw [FileSystem.node?, lost]
  rw [Site.hasRoot, FileSystem.isDirectory, none]
  rfl

/-- A check for files, and one for applications that names none. -/
def rootlessRules : List Rule := [
  ⟨"files", "", .low, .content, .filePatterns ⟨["README.md"], "missing_file", .low⟩⟩,
  ⟨"apps", "", .low, .layout, .appStructure ⟨[], ["models.py"], true⟩⟩]

/-- Without a root, the check for files breaks off and the one for no applications passes. -/
theorem validate?_nowhere :
    let setting : Setting Float := { cappedSetting 0.5 with site := nowhere }
    let manifest : Manifest Float := ⟨"", "", "", "", "", none, .default, rootlessRules⟩
    setting.site.hasRoot = false ∧ ∃ outcome ∈ setting.validate? manifest,
      setting.ShowsRootless manifest outcome ∧ outcome.results.failed = 1 ∧ outcome.results.passed = 1 := by
  intro setting manifest
  have rootless : setting.site.hasRoot = false := hasRoot_nowhere
  obtain ⟨_, returns, shows'⟩ := validate?_of_not_hasRoot rootless manifest
  obtain ⟨outcome, ran⟩ := Option.isSome_iff_exists.mp (returns.mpr (.inr (by decide)))
  have all := shows' outcome ran
  exact ⟨rootless, outcome, ran, all, all.failed.trans (by decide), all.passed.trans (by decide)⟩

/-- A check of no applications does not notice that there is no root. -/
theorem idle_check_passes_nowhere :
    ¬ ∀ (check : CheckSpec) (site : Site), site.hasRoot = false → ∃ e, check.run site = .error e := by
  intro breaks
  obtain ⟨e, broke⟩ := breaks (.appStructure ⟨[], [], false⟩) nowhere hasRoot_nowhere
  rw [CheckSpec.run_of_isIdle rfl] at broke
  cases broke

end Setting

end Plumbline
