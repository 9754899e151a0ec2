import Mathlib.Data.List.Basic
import Plumbline.Proofs.Cap
import Plumbline.Proofs.Tally

namespace Plumbline

namespace Setting

variable {α : Type}

/-- The rules that are carried out. -/
def executed (setting : Setting α) (rules : List LinkedRule) : List LinkedRule :=
  rules.filter (!setting.ignores ·)

/-- What each of the rules that are carried out finds, rule by rule. -/
def found (setting : Setting α) (rules : List LinkedRule) : List Issue :=
  (setting.executed rules).flatMap setting.findings

/-- A rule passes when nothing that it finds counts. -/
def passes (setting : Setting α) (rule : LinkedRule) : Bool := (setting.findings rule).isEmpty

section Parts

variable (setting : Setting α) (first second : List LinkedRule)

theorem executed_append : setting.executed (first ++ second) = setting.executed first ++ setting.executed second :=
  List.filter_append first second

theorem found_append : setting.found (first ++ second) = setting.found first ++ setting.found second := by
  rw [found, executed_append, List.flatMap_append]
  rfl

theorem skipped_append : setting.skipped (first ++ second) = setting.skipped first ++ setting.skipped second := by
  rw [skipped, List.filter_append, List.map_append]
  rfl

variable {setting} {rule : LinkedRule}

theorem executed_cons (here : setting.ignores rule = false) (rest : List LinkedRule) :
    setting.executed (rule :: rest) = rule :: setting.executed rest := by
  rw [executed, List.filter_cons_of_pos (by simp [here])]
  rfl

theorem found_cons (here : setting.ignores rule = false) (rest : List LinkedRule) :
    setting.found (rule :: rest) = setting.findings rule ++ setting.found rest := by
  rw [found, executed_cons here, List.flatMap_cons]
  rfl

theorem skipped_cons (here : setting.ignores rule = false) (rest : List LinkedRule) :
    setting.skipped (rule :: rest) = setting.skipped rest := by
  rw [skipped, List.filter_cons_of_neg (by simp [here])]
  rfl

end Parts

section Folded

variable {setting : Setting α} {tally : Tally} (rules : List LinkedRule)

theorem foldl_record_issues :
    (rules.foldl (fun tally rule => tally.record (setting.findings rule)) tally).issues =
      tally.issues ++ rules.flatMap setting.findings := by
  induction rules generalizing tally with
  | nil => simp
  | cons rule rest ih => rw [List.foldl_cons, ih, Tally.record_issues, List.flatMap_cons, List.append_assoc]

theorem foldl_record_passed :
    (rules.foldl (fun tally rule => tally.record (setting.findings rule)) tally).passed =
      tally.passed + rules.countP setting.passes := by
  induction rules generalizing tally with
  | nil => rfl
  | cons rule rest ih =>
    rw [List.foldl_cons, ih, Tally.record_passed, List.countP_cons, passes]
    omega

theorem foldl_record_total :
    (rules.foldl (fun tally rule => tally.record (setting.findings rule)) tally).total =
      tally.total + rules.length := by
  induction rules generalizing tally with
  | nil => rfl
  | cons rule rest ih =>
    rw [List.foldl_cons, ih, Tally.record_total, List.length_cons]
    omega

end Folded

section Run

variable (setting : Setting α) (rules : List LinkedRule)

theorem tally_issues : (setting.tally rules).issues = setting.found rules :=
  (foldl_record_issues (setting.executed rules)).trans (List.nil_append _)

theorem tally_passed : (setting.tally rules).passed = (setting.executed rules).countP setting.passes :=
  (foldl_record_passed (setting.executed rules)).trans (Nat.zero_add _)

theorem tally_total : (setting.tally rules).total = (setting.executed rules).length :=
  (foldl_record_total (setting.executed rules)).trans (Nat.zero_add _)

theorem tally_failed : (setting.tally rules).failed = (setting.executed rules).countP (!setting.passes ·) := by
  have counted : (setting.tally rules).passed + (setting.tally rules).failed = (setting.tally rules).total :=
    tally_counted setting rules
  have parted := List.length_eq_countP_add_countP setting.passes (l := setting.executed rules)
  have others : (setting.executed rules).countP (fun rule => decide ¬setting.passes rule = true) =
      (setting.executed rules).countP (!setting.passes ·) := List.countP_congr fun rule _ => by simp
  rw [tally_passed, tally_total] at counted
  omega

theorem tally_failed_eq_zero_iff :
    (setting.tally rules).failed = 0 ↔ ∀ rule ∈ setting.executed rules, setting.passes rule = true := by
  rw [tally_failed, List.countP_eq_zero]
  simp

/-- All rules of a run pass exactly when none leaves an issue. -/
theorem allPassed_tally_iff : (setting.tally rules).allPassed = true ↔ (setting.tally rules).issues = [] := by
  rw [Tally.allPassed, beq_iff_eq, tally_failed_eq_zero_iff, tally_issues, found, List.flatMap_eq_nil_iff]
  exact forall₂_congr fun rule _ => List.isEmpty_iff

theorem length_executed_add_skipped :
    (setting.executed rules).length + (setting.skipped rules).length = rules.length := by
  have parted := List.length_eq_countP_add_countP setting.ignores (l := rules)
  have others : rules.countP (fun rule => decide ¬setting.ignores rule = true) = rules.countP (!setting.ignores ·) :=
    List.countP_congr fun rule _ => by simp
  rw [executed, skipped, List.length_map, ← List.countP_eq_length_filter, ← List.countP_eq_length_filter]
  omega

end Run

section Outcome

variable [Scale α] {setting : Setting α} {rules : List LinkedRule} {weights : Weights α} {outcome : Outcome α}

/-- An outcome shows the tally of its run and the rules that were left out. -/
theorem of_run?_eq_some (ran : setting.run? rules weights = some outcome) :
    outcome.results.toTally = setting.tally rules ∧ outcome.skipped = setting.skipped rules := by
  simp only [run?, Option.bind_eq_bind, Option.bind_eq_some_iff] at ran
  obtain ⟨score, _, made⟩ := ran
  obtain rfl := Option.some.inj made
  exact ⟨rfl, rfl⟩

theorem isSome_run? : (setting.run? rules weights).isSome =
    (Score.score? (setting.tally rules) (setting.configuration.weightsOver weights)
      setting.profile.maxPenaltyFactor).isSome := by
  unfold run?
  dsimp only
  cases Score.score? (setting.tally rules) (setting.configuration.weightsOver weights)
    setting.profile.maxPenaltyFactor <;> rfl

end Outcome

/-- A run has no outcome when a rule fails under a cap that is not a number, and otherwise it has one. -/
theorem isSome_run?_iff {setting : Setting Float} {rules : List LinkedRule} {weights : Weights Float} :
    (setting.run? rules weights).isSome = true ↔
      (∀ rule ∈ setting.executed rules, setting.passes rule = true) ∨
        setting.profile.maxPenaltyFactor.isNaN = false := by
  rw [isSome_run?, Score.isSome_score?_iff, tally_failed_eq_zero_iff]

/-- A setting whose cap is some double. -/
def cappedSetting (cap : Float) : Setting Float where
  site := ⟨⟨.directory [], []⟩, "."⟩
  configuration := .default
  profileName := "sample"
  profile := { Profile.default with maxPenaltyFactor := cap }

end Setting

end Plumbline
