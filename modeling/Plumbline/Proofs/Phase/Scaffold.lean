import Plumbline.Phase.Scaffold
import Plumbline.Proofs.Blueprint.Declaration
import Plumbline.Proofs.Check.IssueTypes
import Plumbline.Proofs.Check.Totality
import Plumbline.Proofs.Compilation
import Plumbline.Proofs.Isolation

namespace Plumbline

/-- A check whose patterns compile and that reports nothing that looks like a breakdown. -/
structure CheckSpec.IsSound (check : CheckSpec) : Prop where
  compiles : ∀ pattern ∈ check.patterns, PathPattern.fault? pattern = none
  types : "validation_error" ∉ check.issueTypes

/-- A rule whose check has no such issues of its own shows a breakdown just when the check breaks off. -/
theorem Setting.exists_breakdown_iff {α : Type} {setting : Setting α} {rule : Rule}
    (types : "validation_error" ∉ rule.check.issueTypes) :
    (∃ issue ∈ setting.findings (.ofRule rule), issue.issueType = "validation_error") ↔
      ¬ ∃ issues, rule.check.run setting.site = .ok issues := by
  cases ran : rule.check.run setting.site with
  | ok issues =>
    have linked : (LinkedRule.ofRule rule).run setting.site = .ok issues :=
      congrArg (Except.mapError CheckError.message) ran
    have found : (LinkedRule.ofRule rule).issues setting.site = issues := by rw [LinkedRule.issues, linked]
    refine iff_of_false ?_ (not_not_intro ⟨issues, rfl⟩)
    rintro ⟨_, member, same⟩
    obtain ⟨issue, kept, rfl⟩ := List.mem_map.mp member
    have typed := rule.check.gives_issueTypes setting.site issues ran issue (found ▸ List.mem_of_mem_filter kept)
    exact types (same ▸ typed)
  | error e =>
    have linked : (LinkedRule.ofRule rule).run setting.site = .error e.message :=
      congrArg (Except.mapError CheckError.message) ran
    rw [findings_of_error linked]
    refine iff_of_true ⟨_, List.mem_singleton_self _, rfl⟩ ?_
    rintro ⟨_, gave⟩
    cases gave

theorem Rule.mem_given_iff {condition : Bool} {rule other : Rule} :
    other ∈ Rule.given condition rule ↔ condition = true ∧ other = rule := by
  cases condition with
  | true => exact List.mem_singleton.trans (and_iff_right rfl).symm
  | false => exact iff_of_false List.not_mem_nil nofun

theorem Rule.eq_of_mem_given {condition : Bool} {rule other : Rule} (member : other ∈ Rule.given condition rule) :
    other = rule := (Rule.mem_given_iff.mp member).2

/-- A specification whose names of applications are no globs, and whose names of other files compile. -/
structure Specification.NamesPlainly (spec : Specification) : Prop where
  apps : ∀ app ∈ spec.apps, PathPattern.IsPlain app
  dockerFiles : ∀ file ∈ spec.dockerFiles, PathPattern.fault? file = none
  contentExpectations : ∀ entry ∈ spec.contentExpectations.entries, PathPattern.fault? entry.1 = none

namespace Scaffold

open CheckSpec (IsSound)
open PathPattern (fault?)

variable {spec : Specification}

theorem isSound_of_mem_given {condition : Bool} {rule : Rule} (sound : IsSound rule.check) :
    ∀ other ∈ Rule.given condition rule, IsSound other.check :=
  fun _ member => Rule.eq_of_mem_given member ▸ sound

theorem isSound_contentCheck {file : String} (compiles : fault? file = none) (requirements : List Requirement) :
    IsSound (contentCheck spec file requirements) := by
  rw [contentCheck]
  split
  · exact ⟨List.forall_mem_singleton.mpr compiles, by simp [CheckSpec.issueTypes]⟩
  · exact ⟨List.forall_mem_singleton.mpr compiles, by simp [CheckSpec.issueTypes]⟩

theorem isSound_of_mem_contentRules (names : spec.NamesPlainly) : ∀ rule ∈ contentRules spec, IsSound rule.check := by
  intro rule member
  obtain ⟨entry, listed, here⟩ := List.mem_flatMap.mp member
  exact isSound_of_mem_given (isSound_contentCheck (names.contentExpectations entry listed) _) rule here

theorem isSound_presenceRule {file issueType : String} (compiles : fault? file = none)
    (other : "validation_error" ≠ issueType) (category : Category) :
    IsSound (presenceRule file issueType category).check :=
  ⟨List.forall_mem_singleton.mpr compiles, fun member => other (List.mem_singleton.mp member)⟩

/-- The patterns that the rules of a skeleton name whatever the blueprint says. -/
def fixedPatterns : List String := [
  "README.md", "LICENSE", "CHANGELOG.md", "CONTRIBUTING.md", ".gitignore", "pyproject.toml", ".pre-commit-config.yaml",
  ".env.example", "requirements*.txt", "settings.py", "models.py", "models/*.py"]

theorem fault?_of_mem_fixedPatterns : ∀ pattern ∈ fixedPatterns, fault? pattern = none := by decide +kernel

theorem compiles_of_fixed {patterns : List String} (fixed : ∀ pattern ∈ patterns, pattern ∈ fixedPatterns) :
    ∀ pattern ∈ patterns, fault? pattern = none :=
  fun pattern member => fault?_of_mem_fixedPatterns pattern (fixed pattern member)

theorem isSound_of_mem_documentationRules : ∀ rule ∈ documentationRules spec, IsSound rule.check := by
  have compiles : ∀ file ∈ essentialDocs, fault? file = none := compiles_of_fixed (by decide)
  refine List.forall_mem_append.mpr ⟨List.forall_mem_map.mpr fun file member => ?_, isSound_of_mem_given ⟨?_, ?_⟩⟩
  · exact isSound_presenceRule (compiles file (List.mem_of_mem_filter member)) (by decide) _
  · exact List.forall_mem_singleton.mpr (compiles "README.md" (by decide))
  · simp [CheckSpec.issueTypes]

theorem isSound_fileContent {file : String} (compiles : fault? file = none) (severity : Severity)
    (requirements : List Requirement) : IsSound (.fileContent ⟨file, severity, requirements⟩) :=
  ⟨List.forall_mem_singleton.mpr compiles, by simp [CheckSpec.issueTypes]⟩

/-- The check for the models of all applications, the only one that a blueprint has a say in the patterns of. -/
def applicationsCheck (spec : Specification) : CheckSpec :=
  .filePatterns ⟨spec.apps.map (· ++ "/models.py"), "missing_file", .high⟩

/-- Whether the name of an application is too long for a pattern. -/
def hasOverlongApp (spec : Specification) : Bool := spec.apps.any PathPattern.isOverlong

theorem forall_fault?_applicationsCheck_iff (plain : ∀ app ∈ spec.apps, PathPattern.IsPlain app) :
    (∀ pattern ∈ (applicationsCheck spec).patterns, fault? pattern = none) ↔ hasOverlongApp spec = false := by
  have inFolder (app : String) : app ++ "/models.py" = app ++ "/" ++ "models.py" := by
    rw [String.append_assoc]
    rfl
  have behind : PathPattern.IsPlain "/models.py" := by decide
  have alone : PathPattern.components "models.py" = ["models.py"] := by decide
  have bare : PathPattern.stripDots "models.py".toList = "models.py".toList := by decide
  rw [hasOverlongApp, List.any_eq_false]
  refine List.forall_mem_map.trans (forall₂_congr fun app member => ?_)
  rw [((plain app member).append behind).fault?_eq_none_iff, inFolder,
    PathPattern.isOverlong_beside alone bare (by decide), Bool.not_eq_true]

theorem issueTypes_applicationsCheck : "validation_error" ∉ (applicationsCheck spec).issueTypes := by
  simp [applicationsCheck, CheckSpec.issueTypes]

section Rules

variable {some : List Rule}

theorem beside (sound : ∀ rule ∈ some, IsSound rule.check) :
    ∀ rule ∈ some, rule.check = applicationsCheck spec ∨ IsSound rule.check :=
  fun rule member => .inr (sound rule member)

end Rules

theorem eq_or_isSound_of_mem_modelRules :
    ∀ rule ∈ modelRules spec, rule.check = applicationsCheck spec ∨ IsSound rule.check := by
  refine List.forall_mem_append.mpr ⟨fun rule member => .inl ?_, beside (isSound_of_mem_given ⟨?_, ?_⟩)⟩
  · rw [Rule.eq_of_mem_given member]
    rfl
  · exact List.forall_mem_singleton.mpr (fault?_of_mem_fixedPatterns "models.py" (by decide))
  · simp [CheckSpec.issueTypes]

/-- Where the blueprint's names are plain, all checks of a skeleton are sound but the one for the models of all
applications. -/
theorem eq_or_isSound_of_mem_rules (names : spec.NamesPlainly) :
    ∀ rule ∈ rules spec, rule.check = applicationsCheck spec ∨ IsSound rule.check := by
  simp only [rules, List.forall_mem_append, and_assoc]
  refine ⟨beside (isSound_of_mem_given ⟨?layout, ?_⟩), beside (List.forall_mem_singleton.mpr ?ignore),
    beside (isSound_of_mem_given ?project),
    beside (List.forall_mem_cons.mpr ⟨?hooks, List.forall_mem_singleton.mpr ?environment⟩),
    beside (isSound_of_mem_contentRules names), beside (List.forall_mem_map.mpr fun package _ => ⟨?packages, ?_⟩),
    beside (isSound_of_mem_given ⟨?settings, ?_⟩), beside (isSound_of_mem_given ⟨?tenancy, ?_⟩),
    eq_or_isSound_of_mem_modelRules, beside (isSound_of_mem_given ⟨?apps, ?_⟩),
    beside (isSound_of_mem_given ⟨?integration, ?_⟩), beside (isSound_of_mem_given ⟨?tests, ?_⟩),
    beside isSound_of_mem_documentationRules, beside (List.forall_mem_map.mpr ?containers),
    beside (List.forall_mem_singleton.mpr ⟨?quality, ?_⟩)⟩
  case layout | apps | integration | tests => exact fun _ member => absurd member List.not_mem_nil
  case ignore | project | hooks | environment => exact isSound_fileContent (fault?_of_mem_fixedPatterns _ (by decide)) _ _
  case settings | quality => exact compiles_of_fixed (by decide)
  case packages =>
    have fixed : ∀ file ∈ ["pyproject.toml", "requirements*.txt"], file ∈ fixedPatterns := by decide
    exact compiles_of_fixed fixed
  case tenancy =>
    have fixed : ∀ file ∈ ["models.py", "models/*.py"], file ∈ fixedPatterns := by decide
    exact compiles_of_fixed fixed
  case containers =>
    exact fun file member => isSound_presenceRule (names.dockerFiles file member) (by decide) _
  all_goals simp [CheckSpec.issueTypes, packageRule, settingsRule, qualityRule]

theorem namesPlainly_extract (text : String) : (Blueprint.extract text).spec.NamesPlainly := by
  refine ⟨fun _ member => Blueprint.isPlain_of_mem_apps member,
    fun _ member => Blueprint.fault?_of_mem_dockerFiles member, ?_⟩
  rw [Blueprint.contentExpectations_extract]
  exact fun _ member => Blueprint.fault?_of_mem_contentExpectations member

section Run

variable {rule : Rule}

theorem issueTypes_of_mem_rules (names : spec.NamesPlainly) (member : rule ∈ rules spec) :
    "validation_error" ∉ rule.check.issueTypes := by
  rcases eq_or_isSound_of_mem_rules names rule member with same | sound
  · rw [same]
    exact issueTypes_applicationsCheck
  · exact sound.types

/-- A check of a skeleton breaks off over the name of an application only. -/
theorem exists_run_eq_ok_iff (names : spec.NamesPlainly) (member : rule ∈ rules spec) {site : Site}
    (rooted : site.hasRoot = true) : (∃ issues, rule.check.run site = .ok issues) ↔
      ¬ (rule.check = applicationsCheck spec ∧ hasOverlongApp spec = true) := by
  rw [← failure?_eq_none_iff, CheckSpec.failure?_run_of_hasRoot rooted, List.findSome?_eq_none_iff]
  by_cases same : rule.check = applicationsCheck spec
  · rw [same, forall_fault?_applicationsCheck_iff names.apps]
    simp
  · have sound := (eq_or_isSound_of_mem_rules names rule member).resolve_left same
    exact iff_of_true sound.compiles fun ⟨other, _⟩ => same other

/-- A run of the rules of a skeleton reports a breakdown just when it carries out the check for the models of all
applications and the name of one is too long. -/
theorem exists_breakdown_iff_of_run (names : spec.NamesPlainly) {header : Header} {setting : Setting Float}
    (rooted : setting.site.hasRoot = true) {outcome : Outcome Float}
    (ran : setting.validate? (Compilation.ofRules header (rules spec)).manifest = some outcome) :
    (∃ issue ∈ outcome.results.issues, issue.issueType = "validation_error") ↔
      hasOverlongApp spec = true ∧
        ∃ rule ∈ setting.carriedOut (Compilation.ofRules header (rules spec)).manifest,
          rule.check = applicationsCheck spec := by
  have shown {rule : Rule} (carried : rule ∈ setting.carriedOut (Compilation.ofRules header (rules spec)).manifest) :
      (∃ issue ∈ setting.findings (.ofRule rule), issue.issueType = "validation_error") ↔
        rule.check = applicationsCheck spec ∧ hasOverlongApp spec = true := by
    have written : rule ∈ rules spec := setting.mem_of_mem_carriedOut_ofRules carried
    rw [Setting.exists_breakdown_iff (issueTypes_of_mem_rules names written), exists_run_eq_ok_iff names written rooted,
      not_not]
  rw [(Setting.shows_of_run? ran).issues, Setting.found, Setting.executed_link]
  constructor
  · rintro ⟨issue, member, breakdown⟩
    obtain ⟨linked, executed, finding⟩ := List.mem_flatMap.mp member
    obtain ⟨rule, carried, rfl⟩ := List.mem_map.mp executed
    obtain ⟨same, long⟩ := (shown carried).mp ⟨issue, finding, breakdown⟩
    exact ⟨long, rule, carried, same⟩
  · rintro ⟨long, rule, carried, same⟩
    obtain ⟨issue, finding, breakdown⟩ := (shown carried).mpr ⟨same, long⟩
    exact ⟨issue, List.mem_flatMap.mpr ⟨_, List.mem_map_of_mem carried, finding⟩, breakdown⟩

end Run

/-- Whatever a blueprint says, the checks of its skeleton do not break off on a root that is a directory, unless an
application is named at a length that no pattern may have. Then the check for the models of all applications does, and
a run that carries it out reports that. There is no outcome when a rule fails under a cap that is not a number. -/
theorem validate?_extract (text : String) (header : Header) {setting : Setting Float}
    (rooted : setting.site.hasRoot = true) :
    let spec := (Blueprint.extract text).spec
    let manifest : Manifest Float := (Compilation.ofRules header (rules spec)).manifest
    (∀ rule ∈ rules spec, (∃ issues, rule.check.run setting.site = .ok issues) ↔
      ¬ (rule.check = applicationsCheck spec ∧ hasOverlongApp spec = true)) ∧
    ((setting.validate? manifest).isSome = true ↔
      (∀ rule ∈ setting.executed (Registry.link manifest.rules).rules, setting.passes rule = true) ∨
        setting.profile.maxPenaltyFactor.isNaN = false) ∧
    ∀ outcome ∈ setting.validate? manifest,
      (∃ issue ∈ outcome.results.issues, issue.issueType = "validation_error") ↔
        hasOverlongApp spec = true ∧ ∃ rule ∈ setting.carriedOut manifest, rule.check = applicationsCheck spec := by
  have names := namesPlainly_extract text
  exact ⟨fun _ member => exists_run_eq_ok_iff names member rooted, Setting.isSome_run?_iff,
    fun _ ran => exists_breakdown_iff_of_run names rooted ran⟩

/-- A blueprint with an application, run against a tree without any files. -/
theorem validate?_of_sample_blueprint :
    let setting := Setting.cappedSetting 0.5
    let spec := (Blueprint.extract (Applications.declaring ['c', 'o', 'r', 'e'])).spec
    setting.site.hasRoot = true ∧ spec.apps = ["core"] ∧
      ∃ outcome ∈ setting.validate?
          (Compilation.ofRules ⟨"validator", "", "scaffold", ⟨2026, 1, 1, 0, 0, 0⟩⟩ (rules spec)).manifest,
        ∀ issue ∈ outcome.results.issues, issue.issueType ≠ "validation_error" := by
  intro setting spec
  have rooted : setting.site.hasRoot = true := CheckSpec.hasRoot_emptySite
  have apps : spec.apps = ["core"] :=
    Blueprint.apps_declaring (List.cons_ne_nil _ _) (List.all_eq_true.mp (by decide +kernel))
  have short : hasOverlongApp spec = false := by
    rw [hasOverlongApp, apps]
    decide +kernel
  obtain ⟨_, returns, reports⟩ := validate?_extract (Applications.declaring ['c', 'o', 'r', 'e'])
    ⟨"validator", "", "scaffold", ⟨2026, 1, 1, 0, 0, 0⟩⟩ rooted
  obtain ⟨outcome, ran⟩ := Option.isSome_iff_exists.mp (returns.mpr (.inr (by decide +kernel)))
  refine ⟨rooted, apps, outcome, ran, fun issue member breakdown => ?_⟩
  obtain ⟨long, _⟩ := (reports outcome ran).mp ⟨issue, member, breakdown⟩
  rw [short] at long
  cases long

/-- A name that is too long for a pattern. -/
def longName : List Char := List.replicate (Glob.maxLength + 1) 'A'

theorem exists_mem_rules_of_hasApps (given : hasApps spec = true) :
    ∃ rule ∈ rules spec, rule.check = applicationsCheck spec := by
  have among : ∃ rule ∈ modelRules spec, rule.check = applicationsCheck spec := by
    rw [modelRules, given]
    exact ⟨_, List.mem_cons_self, rfl⟩
  obtain ⟨rule, member, same⟩ := among
  refine ⟨rule, ?_, same⟩
  simp only [rules, List.mem_append, member, or_true, true_or]

theorem eq_of_mem_longName {c : Char} (member : c ∈ longName) : c = 'A' := List.eq_of_mem_replicate member

theorem longName_ne_nil : longName ≠ [] := List.cons_ne_nil _ _

theorem isOverlong_longName : PathPattern.isOverlong (String.ofList longName) = true := by
  have size (n : Nat) : (String.ofList (List.replicate n 'A')).utf8ByteSize = n := by
    induction n with
    | zero => rfl
    | succ n ih =>
      rw [List.replicate_succ, String.ofList_cons, String.utf8ByteSize_append, ih, String.utf8ByteSize_singleton,
        Nat.add_comm]
      rfl
  have slashless : ∀ c ∈ longName, (c == '/') = false := by
    intro c member
    rw [eq_of_mem_longName member]
    rfl
  have bare : PathPattern.stripDots longName = longName := rfl
  rw [PathPattern.isOverlong, PathPattern.components_of_slashless slashless bare longName_ne_nil, List.any_cons,
    longName, size]
  simp

/-- A blueprint may name an application so that a check of its skeleton breaks off. -/
theorem long_name_breaks_off :
    ¬ ∀ (text : String) (site : Site), site.hasRoot = true → ∀ rule ∈ rules (Blueprint.extract text).spec,
      ∃ issues, rule.check.run site = .ok issues := by
  intro total
  have holds := total (Applications.declaring longName) CheckSpec.emptySite CheckSpec.hasRoot_emptySite
  have apps : (Blueprint.extract (Applications.declaring longName)).spec.apps = [String.ofList longName] := by
    refine Blueprint.apps_declaring longName_ne_nil fun c member => ?_
    rw [eq_of_mem_longName member]
    decide +kernel
  have django := Blueprint.isDjango_declaring longName
  have names := namesPlainly_extract (Applications.declaring longName)
  generalize (Blueprint.extract (Applications.declaring longName)).spec = spec at holds apps django names
  have long : hasOverlongApp spec = true := by
    rw [hasOverlongApp, apps, List.any_cons, isOverlong_longName, Bool.true_or]
  have given : hasApps spec = true := by
    rw [hasApps, django, apps]
    rfl
  obtain ⟨rule, member, same⟩ := exists_mem_rules_of_hasApps given
  exact (exists_run_eq_ok_iff names member CheckSpec.hasRoot_emptySite).mp (holds rule member) ⟨same, long⟩

end Scaffold

end Plumbline
