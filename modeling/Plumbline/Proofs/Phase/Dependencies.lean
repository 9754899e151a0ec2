import Plumbline.Proofs.Blueprint.Dependencies
import Plumbline.Proofs.Check.Manifests
import Plumbline.Proofs.Phase.Scaffold

namespace Plumbline.Scaffold

open Check (SoleManifest)
open Dependencies (Entry Row MentionedIn blockText entries pinnedEntries fenced agreeingRows disagreeingRows)

/-- Whether a rule is about a dependency, going by its name. -/
def IsDependencyRule (rule : Rule) : Prop := "validate_dependency_".toList <+: rule.name.toList

section Names

variable {spec : Specification} {rule : Rule}

theorem toList_ruleName (kind subject : String) :
    (ruleName kind subject).toList = "validate_".toList ++ kind.toList ++ Text.slug subject.toList := by
  have literal (text : String) : toString text = text := rfl
  simp only [ruleName, literal, String.toList_append, String.toList_ofList]

theorem isDependencyRule_packageRule (name : String) : IsDependencyRule (packageRule spec name) := by
  rw [IsDependencyRule, packageRule, toList_ruleName]
  exact List.prefix_append _ _

theorem not_isDependencyRule_of_mem_contentRules : ∀ rule ∈ contentRules spec, ¬IsDependencyRule rule := by
  intro rule member begins
  obtain ⟨entry, _, here⟩ := List.mem_flatMap.mp member
  have named : rule.name.toList = "validate_content_".toList ++ Text.slug entry.1.toList := by
    rw [Rule.eq_of_mem_given here, toList_ruleName]
    rfl
  have apart : Text.startsWith "validate_dependency_".toList
      ("validate_content_".toList ++ Text.slug entry.1.toList) = false := rfl
  rw [IsDependencyRule, named, ← Text.startsWith_iff, apart] at begins
  cases begins

/-- The names of the rules that do not depend on what the rules are about. -/
def fixedNames : List String := [
  "validate_directory_structure", "validate_gitignore_content", "validate_pyproject_content",
  "validate_precommit_config_content", "validate_env_example_file", "validate_django_settings_advanced",
  "validate_multi_tenancy_implementation", "validate_django_models", "validate_model_files_docstrings",
  "validate_django_apps_structure", "validate_github_actions_pipeline", "validate_complete_test_structure",
  "validate_readme_content_specific", "validate_development_quality_tools"]

theorem not_isDependencyRule_of_mem_fixedNames (named : rule.name ∈ fixedNames) : ¬IsDependencyRule rule := by
  have others : ∀ name ∈ fixedNames, ¬"validate_dependency_".toList <+: name.toList := by simp [fixedNames]
  exact others rule.name named

theorem not_isDependencyRule_presenceRule {file : String}
    (listed : file ∈ essentialDocs ++ Mention.containers.map Mention.name) (issueType : String) (category : Category) :
    ¬IsDependencyRule (presenceRule file issueType category) := by
  have others : ∀ file ∈ essentialDocs ++ Mention.containers.map Mention.name,
      ¬"validate_dependency_".toList <+: "validate_".toList ++ "".toList ++ Text.slug file.toList := by decide +kernel
  rw [IsDependencyRule, presenceRule, toList_ruleName]
  exact others file listed

/-- The rules about dependencies are those made for the packages. -/
theorem isDependencyRule_iff (containers : ∀ file ∈ spec.dockerFiles, ∃ mention ∈ Mention.containers, mention.name = file)
    (member : rule ∈ rules spec) : IsDependencyRule rule ↔ ∃ name ∈ packages spec, packageRule spec name = rule := by
  have sorted : ∀ rule ∈ rules spec, rule ∈ (packages spec).map (packageRule spec) ∨ ¬IsDependencyRule rule := by
    have other {group : List Rule} (others : ∀ rule ∈ group, ¬IsDependencyRule rule) :
        ∀ rule ∈ group, rule ∈ (packages spec).map (packageRule spec) ∨ ¬IsDependencyRule rule :=
      fun rule member => .inr (others rule member)
    have fixed {group : List Rule} (named : ∀ rule ∈ group, rule.name ∈ fixedNames) :
        ∀ rule ∈ group, rule ∈ (packages spec).map (packageRule spec) ∨ ¬IsDependencyRule rule :=
      other fun rule member => not_isDependencyRule_of_mem_fixedNames (named rule member)
    have given' {condition : Bool} {alone : Rule} (named : alone.name ∈ fixedNames) :
        ∀ rule ∈ Rule.given condition alone, rule.name ∈ fixedNames :=
      fun _ member => Rule.eq_of_mem_given member ▸ named
    simp only [rules, modelRules, documentationRules, List.forall_mem_append, and_assoc]
    refine ⟨fixed (given' ?_), fixed ?_, fixed (given' ?_), fixed ?_, other not_isDependencyRule_of_mem_contentRules,
      fun _ package => .inl package, fixed (given' ?_), fixed (given' ?_), fixed (given' ?_), fixed (given' ?_),
      fixed (given' ?_), fixed (given' ?_), fixed (given' ?_), other (List.forall_mem_map.mpr ?documents),
      fixed (given' ?_), other (List.forall_mem_map.mpr ?containers), fixed ?_⟩
    case documents =>
      exact fun file member => not_isDependencyRule_presenceRule (List.mem_append_left _ (List.mem_of_mem_filter member)) _ _
    case containers =>
      intro file member
      obtain ⟨mention, listed, rfl⟩ := containers file member
      exact not_isDependencyRule_presenceRule (List.mem_append_right _ (List.mem_map_of_mem listed)) _ _
    all_goals simp [fixedNames, ignoreRule, projectFileRule, hooksRule, environmentRule, settingsRule, qualityRule]
  constructor
  · exact fun named => List.mem_map.mp ((sorted rule member).resolve_right (not_not_intro named))
  · rintro ⟨name, _, rfl⟩
    exact isDependencyRule_packageRule name

theorem packageRule_mem_rules {name : String} (member : name ∈ packages spec) : packageRule spec name ∈ rules spec := by
  have made : packageRule spec name ∈ (packages spec).map (packageRule spec) := List.mem_map_of_mem member
  simp only [rules, List.mem_append, made, or_true, true_or]

end Names

/-- The version that a package is last pinned to is found where it is first declared. -/
def PinsAgree (rows : List Row) : Prop :=
  ∀ name, ∀ last ∈ (pinnedEntries rows).find? (·.name == name), ∀ first ∈ (entries rows).find? (·.name == name),
    last.pinnedVersion.toList <:+: first.version

/-- Where all entries of a package give one version, its last pin and its first declaration agree. -/
theorem pinsAgree_of_same_versions {rows : List Row}
    (same : ∀ a ∈ entries rows, ∀ b ∈ entries rows, a.name = b.name → a.version = b.version) : PinsAgree rows := by
  intro name last found first declared
  obtain ⟨listed, _⟩ := Dependencies.mem_pinnedEntries.mp (List.mem_of_find?_eq_some found)
  have lastNamed : last.name = name := by simpa using List.find?_some found
  have firstNamed : first.name = name := by simpa using List.find?_some declared
  have version := same last listed first (List.mem_of_find?_eq_some declared) (lastNamed.trans firstNamed.symm)
  rw [Entry.pinnedVersion, String.toList_ofList, version]
  exact (Text.prefix_dropRightWhile _ _).isInfix

section Block

variable {rows : List Row} {text : String} {site : Site} {names : List String}

/-- The usual packages are known ones but for a driver. -/
theorem mem_of_mem_usualPackages {database name : String} (usual : name ∈ usualPackages database) :
    name ∈ "mysqlclient" :: Dependencies.knownBackend := by
  rcases List.mem_append.mp usual with framework | driver
  · rcases List.mem_pair.mp framework with rfl | rfl <;> decide
  · split at driver <;> simp_all [Dependencies.knownBackend]

theorem asked_extract (only : MentionedIn (blockText rows) text) :
    (Blueprint.extract text).spec.dependencies.backend.filter
        (fun name => Text.asciiLower name.toList != "python".toList) =
      (Blueprint.extract text).spec.dependencies.backend := by
  refine List.filter_eq_self.mpr fun name member => ?_
  obtain ⟨entry, _, rfl⟩ := (Dependencies.mem_backend_extract only).mp member
  exact entry.name_ne_python

theorem packages_of_pinned (only : MentionedIn (blockText rows) text) (pinned : pinnedEntries rows ≠ []) :
    packages (Blueprint.extract text).spec = (Blueprint.extract text).spec.dependencies.backend := by
  have asked : (Blueprint.extract text).spec.dependencies.backend.isEmpty = false := by
    obtain ⟨entry, entries, same⟩ := List.exists_cons_of_ne_nil pinned
    have member := (Dependencies.mem_backend_extract only).mpr ⟨entry, same ▸ List.mem_cons_self, rfl⟩
    exact List.isEmpty_eq_false_iff.mpr (List.ne_nil_of_mem member)
  rw [packages, asked_extract only, asked]
  rfl

theorem packages_of_not_pinned (only : MentionedIn (blockText rows) text) (none : pinnedEntries rows = []) :
    packages (Blueprint.extract text).spec = if (Blueprint.extract text).spec.isDjango then
      usualPackages (Blueprint.extract text).spec.database else [] := by
  have asked : (Blueprint.extract text).spec.dependencies.backend = [] := by
    refine List.eq_nil_iff_forall_not_mem.mpr fun name member => ?_
    obtain ⟨entry, pinned, _⟩ := (Dependencies.mem_backend_extract only).mp member
    rw [none] at pinned
    exact absurd pinned List.not_mem_nil
  rw [packages, asked_extract only, asked]
  rfl

/-- A rule for a package holds of a project file that is the same as a block just when the first entry of the package
holds the version that the rule asks for. -/
theorem run_packageRule_eq_nil_iff {spec : Specification} {name : String}
    (normal : Check.normalizeName name.toList = name.toList)
    (sole : SoleManifest site names (String.ofList (blockText rows))) :
    (packageRule spec name).check.run site = .ok [] ↔ ∃ entry, (entries rows).find? (·.name == name) = some entry ∧
      ∀ version ∈ spec.dependencies.pinned.get? name, version.toList <:+: entry.rest := by
  have ran : (packageRule spec name).check.run site = .ok (Check.packageIssue?
      [(Path.ofSteps names, String.ofList (blockText rows))] (Path.ofSteps names)
      ⟨name, spec.dependencies.pinned.get? name, .high⟩).toList := Check.run_declaredDependencies sole _
  rw [ran, Except.ok.injEq, Option.toList_eq_nil_iff, Check.packageIssue?_eq_none_iff normal]

/-- The packages that a block pins are declared in it at their versions just when the last pin of each agrees with its
first declaration. -/
theorem packages_declared_iff_of_pinned (only : MentionedIn (blockText rows) text)
    (sole : SoleManifest site names (String.ofList (blockText rows))) (pinned : pinnedEntries rows ≠ []) :
    (∀ name ∈ packages (Blueprint.extract text).spec,
      (packageRule (Blueprint.extract text).spec name).check.run site = .ok []) ↔ PinsAgree rows := by
  have declares (entry : Entry) : (packageRule (Blueprint.extract text).spec entry.name).check.run site = .ok [] ↔
      ∃ first, (entries rows).find? (·.name == entry.name) = some first ∧
        ∀ last ∈ (pinnedEntries rows).find? (·.name == entry.name), last.pinnedVersion.toList <:+: first.version := by
    have normal := Check.normalizeName_of_mem (List.mem_cons_of_mem _ entry.known)
    rw [run_packageRule_eq_nil_iff normal sole, Dependencies.get?_pinned_extract only]
    refine exists_congr fun first => and_congr_right fun _ =>
      Option.forall_mem_map.trans (forall₂_congr fun last found => ?_)
    obtain ⟨_, pinned⟩ := Dependencies.mem_pinnedEntries.mp (List.mem_of_find?_eq_some found)
    exact Check.infix_rest_iff first (last.pinnedVersion_ne_nil pinned) last.numbered_pinnedVersion
  rw [packages_of_pinned only pinned]
  constructor
  · intro hold name last found first declared
    have same : last.name = name := by simpa using List.find?_some found
    subst same
    have recorded := (Dependencies.mem_backend_extract only).mpr ⟨last, List.mem_of_find?_eq_some found, rfl⟩
    obtain ⟨first', declared', agree⟩ := (declares last).mp (hold last.name recorded)
    obtain rfl : first' = first := Option.some.inj (declared'.symm.trans declared)
    exact agree last found
  · intro agree name recorded
    obtain ⟨entry, listed, rfl⟩ := (Dependencies.mem_backend_extract only).mp recorded
    have present : ((entries rows).find? (·.name == entry.name)).isSome = true :=
      List.find?_isSome.mpr ⟨entry, (Dependencies.mem_pinnedEntries.mp listed).1, beq_self_eq_true _⟩
    obtain ⟨first, declared⟩ := Option.isSome_iff_exists.mp present
    exact (declares entry).mpr ⟨first, declared, fun last found => agree _ last found first declared⟩

/-- Where a block pins nothing, the usual packages of the framework must be among its entries. -/
theorem packages_declared_iff_of_not_pinned (only : MentionedIn (blockText rows) text)
    (sole : SoleManifest site names (String.ofList (blockText rows))) (none : pinnedEntries rows = []) :
    (∀ name ∈ packages (Blueprint.extract text).spec,
      (packageRule (Blueprint.extract text).spec name).check.run site = .ok []) ↔
      ((Blueprint.extract text).spec.isDjango = true → ∀ name ∈ usualPackages (Blueprint.extract text).spec.database,
        ∃ entry ∈ entries rows, entry.name = name) := by
  have declares {name : String} (usual : name ∈ usualPackages (Blueprint.extract text).spec.database) :
      (packageRule (Blueprint.extract text).spec name).check.run site = .ok [] ↔
        ∃ entry ∈ entries rows, entry.name = name := by
    rw [run_packageRule_eq_nil_iff (Check.normalizeName_of_mem (mem_of_mem_usualPackages usual)) sole,
      Dependencies.get?_pinned_extract only, none]
    simp only [List.find?_nil, Option.map_none, Option.mem_def, reduceCtorEq, false_implies, implies_true, and_true]
    rw [← Option.isSome_iff_exists, List.find?_isSome]
    simp only [beq_iff_eq]
  rw [packages_of_not_pinned only none]
  split
  · rename_i django
    exact ⟨fun hold _ name usual => (declares usual).mp (hold name usual),
      fun declared name usual => (declares usual).mpr (declared django name usual)⟩
  · rename_i other
    exact iff_of_true (List.forall_mem_nil _) fun django => absurd django other

/-- The rules about dependencies that come from a block hold of a project file that is the same as the block just when
the last pin of each package agrees with its first declaration. If nothing is pinned, they ask for the usual packages of
the framework. -/
theorem dependencies_declared_iff (only : MentionedIn (blockText rows) text)
    (sole : SoleManifest site names (String.ofList (blockText rows))) :
    let spec := (Blueprint.extract text).spec
    (∀ rule ∈ rules spec, IsDependencyRule rule → rule.check.run site = .ok []) ↔
      PinsAgree rows ∧ (pinnedEntries rows = [] → spec.isDjango = true →
        ∀ name ∈ usualPackages spec.database, ∃ entry ∈ entries rows, entry.name = name) := by
  intro spec
  have containers : ∀ file ∈ spec.dockerFiles, ∃ mention ∈ Mention.containers, mention.name = file :=
    fun file member => Blueprint.exists_mention_of_mem_dockerFiles member
  have made : (∀ rule ∈ rules spec, IsDependencyRule rule → rule.check.run site = .ok []) ↔
      ∀ name ∈ packages spec, (packageRule spec name).check.run site = .ok [] := by
    constructor
    · exact fun hold name member =>
        hold _ (packageRule_mem_rules member) (isDependencyRule_packageRule name)
    · intro hold rule member named
      obtain ⟨name, package, rfl⟩ := (isDependencyRule_iff containers member).mp named
      exact hold name package
  rw [made]
  by_cases none : pinnedEntries rows = []
  · have agree : PinsAgree rows := by
      intro name last found
      rw [none] at found
      cases found
    exact (packages_declared_iff_of_not_pinned only sole none).trans
      ⟨fun declared => ⟨agree, fun _ => declared⟩, fun ⟨_, declared⟩ => declared none⟩
  · exact (packages_declared_iff_of_pinned only sole none).trans
      (and_iff_left fun nothing => absurd nothing none).symm

end Block

/-- Both tables may name a package as long as they give one version. -/
theorem dependencies_declared_of_agreeingRows :
    let site := Site.ofFile "pyproject.toml" (String.ofList (blockText agreeingRows))
    let spec := (Blueprint.extract (fenced agreeingRows)).spec
    MentionedIn (blockText agreeingRows) (fenced agreeingRows) ∧
      SoleManifest site ["pyproject.toml"] (String.ofList (blockText agreeingRows)) ∧
      (∃ rule ∈ rules spec, IsDependencyRule rule) ∧
      ∀ rule ∈ rules spec, IsDependencyRule rule → rule.check.run site = .ok [] := by
  intro site spec
  have only := Dependencies.mentionedIn_agreeingRows
  have sole := Check.soleManifest_ofFile (String.ofList (blockText agreeingRows))
  have pinned : pinnedEntries agreeingRows ≠ [] := by decide
  have agree : PinsAgree agreeingRows := by
    refine pinsAgree_of_same_versions ?_
    have one : ∀ entry ∈ entries agreeingRows, entry.version = "4.2".toList :=
      List.forall_mem_cons.mpr ⟨rfl, List.forall_mem_singleton.mpr rfl⟩
    exact fun a listed b listed' _ => (one a listed).trans (one b listed').symm
  have django : "django" ∈ packages spec := by
    rw [packages_of_pinned only pinned, Dependencies.mem_backend_extract only]
    exact ⟨_, List.mem_cons_self, rfl⟩
  exact ⟨only, sole, ⟨_, packageRule_mem_rules django, isDependencyRule_packageRule "django"⟩,
    (dependencies_declared_iff only sole).mpr ⟨agree, fun none => absurd none pinned⟩⟩

/-- A package that a block names twice is looked for at its last version in its first declaration. -/
theorem last_pin_missing_in_first_declaration :
    ¬ ∀ (rows : List Row) (text : String) (site : Site) (names : List String), MentionedIn (blockText rows) text →
      SoleManifest site names (String.ofList (blockText rows)) →
      ∀ rule ∈ rules (Blueprint.extract text).spec, IsDependencyRule rule → rule.check.run site = .ok [] := by
  intro hold
  have only := Dependencies.mentionedIn_disagreeingRows
  have sole := Check.soleManifest_ofFile (String.ofList (blockText disagreeingRows))
  have pinned : pinnedEntries disagreeingRows ≠ [] := by decide
  have agree := (packages_declared_iff_of_pinned only sole pinned).mp fun name package =>
    hold _ _ _ _ only sole _ (packageRule_mem_rules package) (isDependencyRule_packageRule name)
  exact absurd (agree "django" _ rfl _ rfl) (by decide)

end Plumbline.Scaffold
