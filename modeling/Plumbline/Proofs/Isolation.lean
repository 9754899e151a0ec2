import Plumbline.Proofs.Findings

namespace Plumbline

/-- The rule with another check in its place. -/
def LinkedRule.withCheck (rule : LinkedRule) (check : Site → Except String (List Issue)) : LinkedRule :=
  { rule with run := check }

namespace Setting

section Breakdown

variable {α : Type} {setting : Setting α} {rule : LinkedRule} {reason : String}

/-- No tolerance and no waiver passes a breakdown over. -/
theorem counts_breakdown (setting : Setting α) (rule : LinkedRule) (reason : String) :
    setting.counts (rule.breakdown reason) = true := by
  have exempt : (rule.breakdown reason).issueType == "validation_error" := beq_self_eq_true _
  rw [counts, exempt, Bool.true_or]

theorem findings_of_error (breaks : rule.run setting.site = .error reason) :
    setting.findings rule = [(rule.breakdown reason).inCategory rule.category] := by
  have alone : rule.issues setting.site = [rule.breakdown reason] := by rw [LinkedRule.issues, breaks]
  rw [findings, alone, List.filter_cons_of_pos (counts_breakdown setting rule reason), List.filter_nil,
    List.map_singleton]

theorem passes_of_error (breaks : rule.run setting.site = .error reason) : setting.passes rule = false := by
  rw [passes, findings_of_error breaks]
  rfl

end Breakdown

/-- An outcome that shows just what the rules found that were carried out: their issues in order, how many rules were
carried out, passed and failed, and which ones were left out. -/
structure Shows {α : Type} (setting : Setting α) (rules : List LinkedRule) (outcome : Outcome α) : Prop where
  issues : outcome.results.issues = setting.found rules
  total : outcome.results.total = (setting.executed rules).length
  passed : outcome.results.passed = (setting.executed rules).countP setting.passes
  failed : outcome.results.failed = (setting.executed rules).countP (!setting.passes ·)
  skipped : outcome.skipped = setting.skipped rules

theorem shows_of_run? {α : Type} [Scale α] {setting : Setting α} {rules : List LinkedRule} {weights : Weights α}
    {outcome : Outcome α} (ran : setting.run? rules weights = some outcome) : setting.Shows rules outcome := by
  obtain ⟨tally, skipped⟩ := of_run?_eq_some ran
  refine ⟨?_, ?_, ?_, ?_, skipped⟩
  · rw [tally, tally_issues]
  · rw [tally, tally_total]
  · rw [tally, tally_passed]
  · rw [tally, tally_failed]

section Replaced

variable {α : Type} {setting : Setting α} {check : Site → Except String (List Issue)} {reason : String}
  (before after : List LinkedRule) (rule : LinkedRule)

theorem found_around (here : setting.ignores rule = false) :
    setting.found (before ++ rule :: after) = setting.found before ++ setting.findings rule ++ setting.found after := by
  rw [found_append, found_cons here, List.append_assoc]

theorem executed_around (here : setting.ignores rule = false) :
    setting.executed (before ++ rule :: after) = setting.executed before ++ rule :: setting.executed after := by
  rw [executed_append, executed_cons here]

theorem skipped_around (here : setting.ignores rule = false) :
    setting.skipped (before ++ rule :: after) = setting.skipped before ++ setting.skipped after := by
  rw [skipped_append, skipped_cons here]

theorem found_withCheck (here : setting.ignores rule = false) (breaks : check setting.site = .error reason) :
    setting.found (before ++ rule.withCheck check :: after) =
      setting.found before ++ [(rule.breakdown reason).inCategory rule.category] ++ setting.found after := by
  have alone : setting.findings (rule.withCheck check) = [(rule.breakdown reason).inCategory rule.category] :=
    findings_of_error breaks
  rw [found_around before after (rule.withCheck check) here, alone]

end Replaced

/-- An outcome in which a rule between others broke off. One critical issue in the category of the rule stands where its
own findings would; what the others found, which of them passed and which were left out is as without it. -/
structure ShowsBreakdown {α : Type} (setting : Setting α) (before : List LinkedRule) (rule : LinkedRule)
    (after : List LinkedRule) (outcome : Outcome α) : Prop where
  issues : ∃ issue : Issue, issue.issueType = "validation_error" ∧ issue.severity = .critical ∧
    issue.category = rule.category ∧
    outcome.results.issues = setting.found before ++ [issue] ++ setting.found after
  total : outcome.results.total = (setting.executed before).length + 1 + (setting.executed after).length
  passed : outcome.results.passed =
    (setting.executed before).countP setting.passes + (setting.executed after).countP setting.passes
  failed : outcome.results.failed =
    (setting.executed before).countP (!setting.passes ·) + 1 + (setting.executed after).countP (!setting.passes ·)
  skipped : outcome.skipped = setting.skipped (before ++ rule :: after)

theorem Shows.breakdown {α : Type} {setting : Setting α} {rule : LinkedRule}
    {check : Site → Except String (List Issue)} {reason : String} {before after : List LinkedRule}
    {outcome : Outcome α} (shows' : setting.Shows (before ++ rule.withCheck check :: after) outcome)
    (here : setting.ignores rule = false) (breaks : check setting.site = .error reason) :
    setting.ShowsBreakdown before rule after outcome := by
  have fails : setting.passes (rule.withCheck check) = false := passes_of_error breaks
  have carriedOut := executed_around before after (rule.withCheck check) here
  refine ⟨⟨(rule.breakdown reason).inCategory rule.category, rfl, rfl, rfl, ?_⟩, ?_, ?_, ?_, ?_⟩
  · rw [shows'.issues, found_withCheck before after rule here breaks]
  · rw [shows'.total, carriedOut, List.length_append, List.length_cons]
    omega
  · rw [shows'.passed, carriedOut, List.countP_append, List.countP_cons_of_neg (by simp [fails])]
  · rw [shows'.failed, carriedOut, List.countP_append, List.countP_cons_of_pos (by simp [fails])]
    omega
  · rw [shows'.skipped, skipped_around before after rule here]
    exact skipped_around before after (rule.withCheck check) here

/-- What rules find is put together rule by rule, and a rule that breaks off only takes the place of what it would find.
All this needs a cap that is a number: under any other there is no outcome as soon as a rule fails. -/
theorem run?_isolates (setting : Setting Float) (rules : List LinkedRule) (weights : Weights Float) :
    ((setting.run? rules weights).isSome = true ↔
      (∀ rule ∈ setting.executed rules, setting.passes rule = true) ∨
        setting.profile.maxPenaltyFactor.isNaN = false) ∧
    (∀ outcome ∈ setting.run? rules weights, setting.Shows rules outcome) ∧
    ∀ before rule after check reason, rules = before ++ rule :: after → setting.ignores rule = false →
      check setting.site = .error reason →
      setting.found rules = setting.found before ++ setting.findings rule ++ setting.found after ∧
      ((setting.run? (before ++ rule.withCheck check :: after) weights).isSome = true ↔
        setting.profile.maxPenaltyFactor.isNaN = false) ∧
      ∀ outcome ∈ setting.run? (before ++ rule.withCheck check :: after) weights,
        setting.ShowsBreakdown before rule after outcome := by
  refine ⟨isSome_run?_iff, fun outcome ran => shows_of_run? ran, ?_⟩
  rintro before rule after check reason rfl here breaks
  refine ⟨found_around before after rule here, ?_, fun outcome ran => (shows_of_run? ran).breakdown here breaks⟩
  rw [isSome_run?_iff, or_iff_right]
  intro allPass
  have carriedOut := executed_around before after (rule.withCheck check) here
  have passes := allPass (rule.withCheck check) (carriedOut ▸ List.mem_append_right _ List.mem_cons_self)
  rw [passes_of_error breaks] at passes
  contradiction

/-- A rule that finds nothing. -/
def quietRule (name : String) : LinkedRule := ⟨name, "", .low, .layout, fun _ => .ok []⟩

/-- Under a cap of one half, a breakdown between two rules that pass is one issue and two rules that still pass. -/
theorem run?_isolates_between_quiet_rules :
    ∃ outcome ∈ (cappedSetting 0.5).run?
        ([quietRule "first"] ++ (quietRule "second").withCheck (fun _ => .error "broken") :: [quietRule "third"])
        .default,
      (cappedSetting 0.5).ShowsBreakdown [quietRule "first"] (quietRule "second") [quietRule "third"] outcome := by
  obtain ⟨_, _, replaced⟩ := run?_isolates (cappedSetting 0.5)
    ([quietRule "first"] ++ quietRule "second" :: [quietRule "third"]) .default
  obtain ⟨_, returns, breaks⟩ := replaced _ _ _ (fun _ => .error "broken") "broken" rfl (by decide) rfl
  obtain ⟨outcome, ran⟩ := Option.isSome_iff_exists.mp (returns.mpr (by decide))
  exact ⟨outcome, ran, breaks outcome ran⟩

/-- Under a cap that is not a number, one check that breaks off leaves the whole run without an outcome. -/
theorem breakdown_ends_run_under_nan_cap :
    ¬ ∀ (setting : Setting Float) (rule : LinkedRule) (check : Site → Except String (List Issue)) (reason : String),
      setting.ignores rule = false → check setting.site = .error reason →
      ∀ sound ∈ setting.run? [rule] .default, ∃ outcome ∈ setting.run? [rule.withCheck check] .default,
        setting.ShowsBreakdown [] rule [] outcome := by
  intro isolated
  have ran : (cappedSetting (0 / 0)).run? [quietRule "quiet"] .default ≠ none := by
    rw [← Option.isSome_iff_ne_none, isSome_run?_iff]
    exact .inl (by decide)
  obtain ⟨sound, ran⟩ := Option.ne_none_iff_exists'.mp ran
  obtain ⟨outcome, hit, _⟩ := isolated (cappedSetting (0 / 0)) (quietRule "quiet") (fun _ => .error "broken") "broken"
    (by decide) rfl sound ran
  have none : ((cappedSetting (0 / 0)).run? [(quietRule "quiet").withCheck fun _ => .error "broken"]
      .default).isSome = false := by
    rw [Bool.eq_false_iff, ne_eq, isSome_run?_iff]
    decide
  rw [Option.mem_def.mp hit] at none
  contradiction

end Setting

end Plumbline
