import Mathlib.Algebra.Ring.Nat
import Mathlib.Data.Finset.Card
import Mathlib.Data.Finset.Dedup
import Plumbline.Proofs.Findings

namespace Plumbline

namespace Registry

theorem mem_names_register {registry : Registry} {rule : LinkedRule} {name : String} :
    name ∈ (registry.register rule).names ↔ name ∈ registry.names ∨ name = rule.name := by
  unfold register
  split
  · rename_i taken
    exact ⟨Or.inl, fun either => either.elim id fun same => same ▸ taken⟩
  · simp [names]

theorem mem_names_foldl_register {rules : List Rule} {registry : Registry} {name : String} :
    name ∈ (rules.foldl (fun registry rule => registry.register (.ofRule rule)) registry).names ↔
      name ∈ registry.names ∨ name ∈ rules.map Rule.name := by
  induction rules generalizing registry with
  | nil => simp
  | cons rule rest ih =>
    have same : (LinkedRule.ofRule rule).name = rule.name := rfl
    rw [List.foldl_cons, ih, mem_names_register, same, List.map_cons, List.mem_cons, or_assoc]

/-- Linking takes up one rule of each name. -/
theorem length_link (rules : List Rule) : (link rules).rules.length = (rules.map Rule.name).toFinset.card := by
  have names : (link rules).names.toFinset = (rules.map Rule.name).toFinset := by
    ext name
    rw [List.mem_toFinset, List.mem_toFinset, link, mem_names_foldl_register]
    exact or_iff_right List.not_mem_nil
  have distinct : (link rules).names.Nodup := (link rules).distinct
  rw [← names, List.toFinset_card_of_nodup distinct, Registry.names, List.length_map]

end Registry

namespace Tally

theorem foldl_count_of (issues : List Issue) (table : PerCategory Nat) (c : Category) :
    (issues.foldl count table).of c = table.of c + issues.countP (·.category == c) := by
  induction issues generalizing table with
  | nil => rfl
  | cons issue rest ih =>
    rw [List.foldl_cons, ih, count, PerCategory.of_update, List.countP_cons]
    by_cases here : issue.category = c
    · subst here
      simp only [beq_self_eq_true, if_true]
      omega
    · have elsewhere : (issue.category == c) = false := beq_eq_false_iff_ne.mpr here
      rw [if_neg (Ne.symm here), elsewhere]
      simp

/-- The counts of a tally agree with one another and with its issues. -/
structure Accounts (tally : Tally) : Prop where
  counted : tally.Counted
  failed : tally.failed ≤ tally.issues.length
  buckets : ∀ c, tally.categories.of c = tally.issues.countP (·.category == c)

theorem accounts_empty : empty.Accounts :=
  ⟨rfl, Nat.le_refl 0, fun c => PerCategory.of_tabulate (fun _ => 0) c⟩

theorem record_categories (tally : Tally) (issues : List Issue) :
    (tally.record issues).categories = issues.foldl count tally.categories := by
  unfold record
  split
  · rename_i empty
    rw [List.isEmpty_iff.mp empty]
    rfl
  · rfl

/-- A rule keeps the accounts, whether it passes or fails: it fails only with an issue. -/
theorem Accounts.record {tally : Tally} (accounts : tally.Accounts) (issues : List Issue) :
    (tally.record issues).Accounts := by
  refine ⟨accounts.counted.record issues, ?_, fun c => ?_⟩
  · have bound := accounts.failed
    rw [record_failed, record_issues, List.length_append]
    cases issues with
    | nil => simpa using bound
    | cons issue rest =>
      simp only [List.isEmpty_cons, Bool.false_eq_true, if_false, List.length_cons]
      omega
  · rw [record_categories, foldl_count_of, record_issues, List.countP_append, accounts.buckets c]

theorem sum_countP_category (issues : List Issue) :
    (Category.all.map fun c => issues.countP (·.category == c)).sum = issues.length := by
  induction issues with
  | nil => rfl
  | cons issue rest ih =>
    simp only [Category.all, List.map_cons, List.map_nil, List.sum_cons, List.sum_nil, List.countP_cons,
      List.length_cons] at ih ⊢
    cases issue.category <;> simp <;> omega

/-- The buckets add up to the number of issues. -/
theorem Accounts.sum_buckets {tally : Tally} (accounts : tally.Accounts) :
    (Category.all.map tally.categories.of).sum = tally.issues.length := by
  have buckets : tally.categories.of = fun c => tally.issues.countP (·.category == c) := funext accounts.buckets
  rw [buckets, sum_countP_category]

end Tally

namespace Setting

theorem tally_accounts {α : Type} (setting : Setting α) (rules : List LinkedRule) : (setting.tally rules).Accounts := by
  unfold tally
  exact List.foldlRecOn _ _ Tally.accounts_empty fun tally accounts rule _ => accounts.record (setting.findings rule)

/-- Every rule name of a manifest is counted once, as passed, failed or skipped, and every issue once, in its category.
An outcome is missing only when a rule fails under a cap that is not a number. -/
theorem validate?_accounts (setting : Setting Float) (manifest : Manifest Float) :
    ((setting.validate? manifest).isSome = true ↔
      (∀ rule ∈ setting.executed (Registry.link manifest.rules).rules, setting.passes rule = true) ∨
        setting.profile.maxPenaltyFactor.isNaN = false) ∧
    ∀ outcome ∈ setting.validate? manifest,
      outcome.results.total = outcome.results.passed + outcome.results.failed ∧
      outcome.results.total + outcome.skipped.length = (manifest.rules.map Rule.name).toFinset.card ∧
      outcome.results.failed ≤ outcome.results.issues.length ∧
      (∀ c : Category, c ∈ Category.all ∧
        outcome.results.categories.of c = outcome.results.issues.countP (·.category == c)) ∧
      (Category.all.map outcome.results.categories.of).sum = outcome.results.issues.length := by
  refine ⟨isSome_run?_iff, fun outcome ran => ?_⟩
  obtain ⟨tally, skipped⟩ := of_run?_eq_some ran
  have accounts := tally_accounts setting (Registry.link manifest.rules).rules
  have counted : (setting.tally (Registry.link manifest.rules).rules).passed + _ = _ := accounts.counted
  have parted := length_executed_add_skipped setting (Registry.link manifest.rules).rules
  rw [tally, skipped, ← Registry.length_link, ← parted, tally_total]
  refine ⟨?_, rfl, accounts.failed, fun c => ⟨?_, accounts.buckets c⟩, accounts.sum_buckets⟩
  · rw [← tally_total]
    exact counted.symm
  · cases c <;> decide

/-- A manifest that names one rule twice and another rule once, and what a run of it counts. -/
theorem validate?_accounts_for_repeated_name :
    ∃ outcome ∈ (cappedSetting 0.5).validate? ⟨"", "", "", "", "", none, .default, [
        ⟨"a", "", .low, .layout, .requiredPaths ⟨["missing"]⟩⟩, ⟨"a", "", .low, .api, .requiredPaths ⟨[]⟩⟩,
        ⟨"b", "", .low, .models, .requiredPaths ⟨[]⟩⟩]⟩,
      outcome.results.total + outcome.skipped.length = 2 := by
  obtain ⟨returns, accounts⟩ := validate?_accounts (cappedSetting 0.5) ⟨"", "", "", "", "", none, .default, [
    ⟨"a", "", .low, .layout, .requiredPaths ⟨["missing"]⟩⟩, ⟨"a", "", .low, .api, .requiredPaths ⟨[]⟩⟩,
    ⟨"b", "", .low, .models, .requiredPaths ⟨[]⟩⟩]⟩
  obtain ⟨outcome, ran⟩ := Option.isSome_iff_exists.mp (returns.mpr (.inr (by decide)))
  obtain ⟨_, names, _⟩ := accounts outcome ran
  exact ⟨outcome, ran, names.trans (by decide)⟩

end Setting

end Plumbline
