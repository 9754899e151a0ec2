import Mathlib.Data.List.Perm.Subperm
import Plumbline.Phase
import Plumbline.Proofs.Compilation
import Plumbline.Proofs.Phase.Dependencies

namespace Plumbline

namespace Rule

/-- No rule is called by a name that is not listed, nor more rules by one name than it is listed for. -/
def NamesWithin (names : List String) (rules : List Rule) : Prop := List.Subperm (rules.map Rule.name) names

namespace NamesWithin

variable {names others : List String} {rules rest : List Rule}

theorem nil : NamesWithin [] [] := List.Subperm.refl []

/-- Names made from some of a list of subjects are among those made from all of it. -/
theorem mono_map {α : Type} {call : α → String} {items known : List α} (within : NamesWithin (items.map call) rules)
    (some : List.Subperm items known) : NamesWithin (known.map call) rules := by
  obtain ⟨inOrder, same, sublist⟩ := some
  exact List.Subperm.trans within ⟨inOrder.map call, same.map call, sublist.map call⟩

theorem nodup (within : NamesWithin names rules) (distinct : names.Nodup) : (rules.map Rule.name).Nodup := by
  obtain ⟨inOrder, same, sublist⟩ := within
  exact same.nodup_iff.mp (sublist.nodup distinct)

theorem append (within : NamesWithin names rules) (later : NamesWithin others rest) :
    NamesWithin (names ++ others) (rules ++ rest) := by
  rw [NamesWithin, List.map_append]
  exact List.Subperm.append within later

theorem cons (later : NamesWithin names rest) (rule : Rule) : NamesWithin (rule.name :: names) (rule :: rest) :=
  (List.subperm_cons rule.name).mpr later

theorem given_append (later : NamesWithin names rest) (condition : Bool) (rule : Rule) :
    NamesWithin (rule.name :: names) (given condition rule ++ rest) := by
  cases condition
  · exact List.Subperm.cons_right rule.name later
  · exact later.cons rule

theorem of_given (condition : Bool) (rule : Rule) : NamesWithin [rule.name] (given condition rule) := by
  rw [← List.append_nil (given condition rule)]
  exact nil.given_append condition rule

theorem of_map {α : Type} (rule : α → Rule) (items : List α) :
    NamesWithin (items.map fun a => (rule a).name) (items.map rule) := by
  rw [NamesWithin, List.map_map]
  exact List.Subperm.refl _

theorem flatMap_given {α : Type} (condition : α → Bool) (rule : α → Rule) (items : List α) :
    NamesWithin (items.map fun a => (rule a).name) (items.flatMap fun a => given (condition a) (rule a)) := by
  induction items with
  | nil => exact nil
  | cons a rest ih => exact ih.given_append (condition a) (rule a)

end NamesWithin

end Rule

namespace Evolution

/-- The names that the rules of a change may have. -/
def ruleNames : List String := [
  "validate_backward_compatibility", "validate_deprecation_markers", "validate_refactoring_safety",
  "validate_test_maintenance", "validate_performance_improvements", "validate_documentation_updates",
  "validate_versioning", "validate_data_migrations", "validate_migration_reversibility",
  "validate_configuration_evolution", "validate_env_example_evolution"]

variable (year : Int32) (change : Change) (spec : Specification)

theorem namesWithin_rules : Rule.NamesWithin ruleNames (rules year change spec) := by
  simp only [rules, List.append_assoc, List.cons_append, List.nil_append]
  refine .cons ?_ _
  iterate 2 refine .given_append ?_ _ _
  refine .cons ?_ _
  refine .given_append ?_ _ _
  iterate 2 refine .cons ?_ _
  iterate 3 refine .given_append ?_ _ _
  exact .of_given _ _

theorem nodup_names_rules : ((rules year change spec).map Rule.name).Nodup :=
  (namesWithin_rules year change spec).nodup (by decide +kernel)

end Evolution

namespace Integration

/-- What the rules of an integration may be called behind its name. -/
def ruleSuffixes : List String := [
  "module_integration", "interfaces", "communication", "database_integration", "api_integration", "external_apis",
  "integration_tests", "configuration", "env_configuration"]

theorem ruleName_injective (phase : String) : Function.Injective (ruleName phase) :=
  fun _ _ same => (String.append_right_inj _).mp same

variable (phase : String) (wiring : Wiring) (spec : Specification)

theorem namesWithin_rules : Rule.NamesWithin (ruleSuffixes.map (ruleName phase)) (rules phase wiring spec) := by
  simp only [rules, List.append_assoc, List.cons_append, List.nil_append]
  iterate 6 refine .given_append ?_ _ _
  refine .cons ?_ _
  refine .given_append ?_ _ _
  exact .of_given _ _

theorem nodup_names_rules : ((rules phase wiring spec).map Rule.name).Nodup :=
  (namesWithin_rules phase wiring spec).nodup (List.Nodup.map (ruleName_injective phase) (by decide +kernel))

end Integration

namespace Scaffold

/-- What the rules of a skeleton are called after: files and packages from a few closed lists, each at most once. -/
structure SubjectsKnown (spec : Specification) : Prop where
  files : List.Subperm spec.contentExpectations.keys ["settings.py", "models.py", "pyproject.toml"]
  packages : List.Subperm spec.dependencies.backend Dependencies.knownBackend
  containers : List.Subperm spec.dockerFiles (Mention.containers.map Mention.name)

/-- The packages that rules can be about. -/
def knownPackages : List String := "mysqlclient" :: Dependencies.knownBackend

/-- The names that the rules of a skeleton may have, in the order of the rules. -/
def ruleNames : List String := [
  "validate_directory_structure", "validate_gitignore_content", "validate_pyproject_content",
  "validate_precommit_config_content", "validate_env_example_file"] ++
  (["settings.py", "models.py", "pyproject.toml"].map (ruleName "content_") ++
  (knownPackages.map (ruleName "dependency_") ++
  (["validate_django_settings_advanced", "validate_multi_tenancy_implementation", "validate_django_models",
    "validate_model_files_docstrings", "validate_django_apps_structure", "validate_github_actions_pipeline",
    "validate_complete_test_structure"] ++
  ((essentialDocs.map (ruleName "") ++ ["validate_readme_content_specific"]) ++
  ((Mention.containers.map Mention.name).map (ruleName "") ++ ["validate_development_quality_tools"])))))

theorem nodup_ruleNames : ruleNames.Nodup := by
  rw [ruleNames, ← List.append_assoc, ← List.append_assoc]
  refine List.nodup_append.mpr ⟨?_, ?_, ?_⟩
  · decide +kernel
  · decide +kernel
  · decide +kernel

variable {spec : Specification}

theorem nodup_usualPackages (database : String) : (usualPackages database).Nodup := by
  unfold usualPackages
  split <;> decide

theorem packages_subperm (known : SubjectsKnown spec) : List.Subperm (packages spec) knownPackages := by
  simp only [packages]
  split
  · exact (nodup_usualPackages spec.database).subperm fun _ usual => mem_of_mem_usualPackages usual
  · exact (List.filter_sublist.subperm.trans known.packages).cons_right "mysqlclient"

theorem namesWithin_contentRules (known : SubjectsKnown spec) :
    Rule.NamesWithin (["settings.py", "models.py", "pyproject.toml"].map (ruleName "content_"))
      (contentRules spec) := by
  have called : Rule.NamesWithin (spec.contentExpectations.keys.map (ruleName "content_")) (contentRules spec) := by
    rw [NameMap.keys, List.map_map]
    exact .flatMap_given _ _ _
  exact called.mono_map known.files

theorem namesWithin_documentationRules :
    Rule.NamesWithin (essentialDocs.map (ruleName "") ++ ["validate_readme_content_specific"])
      (documentationRules spec) :=
  .append ((Rule.NamesWithin.of_map _ _).mono_map List.filter_sublist.subperm) (.of_given _ _)

theorem namesWithin_rules (known : SubjectsKnown spec) : Rule.NamesWithin ruleNames (rules spec) := by
  have packages : Rule.NamesWithin (knownPackages.map (ruleName "dependency_"))
      ((packages spec).map (packageRule spec)) :=
    (Rule.NamesWithin.of_map _ _).mono_map (packages_subperm known)
  have containers : Rule.NamesWithin ((Mention.containers.map Mention.name).map (ruleName "")) (containerRules spec) :=
    (Rule.NamesWithin.of_map _ _).mono_map known.containers
  simp only [ruleNames, rules, layoutRules, tenancyRules, modelRules, appRules, integrationRules, testRules,
    List.append_assoc, List.cons_append, List.nil_append]
  refine .given_append (.cons (.given_append (.cons (.cons ?_ _) _) _ _) _) _ _
  refine (namesWithin_contentRules known).append (packages.append ?_)
  iterate 7 refine .given_append ?_ _ _
  exact namesWithin_documentationRules.append (containers.append (.cons .nil _))

open Blueprint in
theorem subjectsKnown_extract (text : String) : SubjectsKnown (extract text).spec := by
  refine ⟨?_, ?_, ?_⟩
  · rw [contentExpectations_extract]
    exact keys_contentExpectations_subperm _ _
  · rw [Dependencies.dependencies_extract]
    exact Dependencies.backend_find_subperm text _
  · rw [dockerFiles_extract]
    exact (List.filter_sublist.map Mention.name).subperm

theorem nodup_names_rules_extract (text : String) :
    ((rules (Blueprint.extract text).spec).map Rule.name).Nodup :=
  (namesWithin_rules (subjectsKnown_extract text)).nodup nodup_ruleNames

end Scaffold

/-- All of some rules go into the manifest they are compiled to. -/
structure Compilation.KeepsAll (header : Header) (rules : List Rule) : Prop where
  apart : (rules.map Rule.name).Nodup
  dropped : (Compilation.ofRules (α := Float) header rules).dropped = []
  kept : (Compilation.ofRules (α := Float) header rules).manifest.rules = rules

theorem Compilation.keepsAll_of_nodup {rules : List Rule} (apart : (rules.map Rule.name).Nodup) (header : Header) :
    KeepsAll header rules := by
  have whole : sift [] rules = (rules, []) := sift_of_nodup apart fun _ _ => List.not_mem_nil
  refine ⟨apart, ?_, ?_⟩
  · rw [dropped_ofRules, whole]
  · rw [rules_ofRules, whole]

namespace Phase

/-- No rule is lost from the skeleton of a blueprint, nor from an integration or a change of whatever project. -/
theorem compiles_without_loss (header : Header) (year : Int32) :
    (∀ text, Compilation.KeepsAll header (scaffold.rules year (Blueprint.extract text).spec)) ∧
    (∀ name wiring spec, Compilation.KeepsAll header ((integration name wiring).rules year spec)) ∧
    (∀ change spec, Compilation.KeepsAll header ((evolution change).rules year spec)) := by
  refine ⟨fun text => ?_, fun name wiring spec => ?_, fun change spec => ?_⟩
  · exact Compilation.keepsAll_of_nodup (Scaffold.nodup_names_rules_extract text) header
  · exact Compilation.keepsAll_of_nodup (Integration.nodup_names_rules name wiring spec) header
  · exact Compilation.keepsAll_of_nodup (Evolution.nodup_names_rules year change spec) header

end Phase

end Plumbline
