import Plumbline.Proofs.Check.Migrations
import Plumbline.Proofs.Files.Path
import Plumbline.Proofs.Findings

namespace Plumbline

namespace Path

/-- Whether a name is that of a path: the whole of it, or the last of its components. -/
def IsNamed (name path : String) : Prop := name ≠ "" ∧ pieces name <:+ pieces path

def EndsInside (name path : String) : Prop :=
  name = "" ∨ ∃ lead c, c ≠ '/' ∧ path.toList = lead ++ c :: name.toList

variable {name path : String}

theorem suffix_iff : name.toList <:+ path.toList ↔ IsNamed name path ∨ EndsInside name path := by
  rw [IsNamed, EndsInside, pieces_suffix_iff]
  constructor
  · rintro ⟨before, whole⟩
    by_cases empty : name = ""
    · exact .inr (.inl empty)
    · rcases List.eq_nil_or_concat before with rfl | ⟨lead, c, rfl⟩
      · exact .inl ⟨empty, .inl (String.toList_injective whole.symm)⟩
      · rw [List.concat_eq_append, List.append_assoc, List.singleton_append] at whole
        by_cases slash : c = '/'
        · exact .inl ⟨empty, .inr ⟨lead, slash ▸ whole.symm⟩⟩
        · exact .inr (.inr ⟨lead, c, slash, whole.symm⟩)
  · have behind {lead : List Char} {c : Char} (whole : path.toList = lead ++ c :: name.toList) :
        name.toList <:+ path.toList := ⟨lead ++ [c], by rw [whole, List.append_assoc, List.singleton_append]⟩
    rintro (⟨_, rfl | ⟨lead, whole⟩⟩ | rfl | ⟨lead, c, _, whole⟩)
    · exact List.suffix_rfl
    · exact behind whole
    · exact List.nil_suffix
    · exact behind whole

end Path

theorem Tolerance.tolerates_missing_file (tolerance : Tolerance) : tolerance.tolerates "missing_file" = false := by
  have documentation : documentationTypes.contains "missing_file" = false := by decide
  have ci : ciTypes.contains "missing_file" = false := by decide
  have docker : ("missing_file" == "missing_docker_file") = false := by decide
  rw [tolerates, documentation, ci, docker]
  simp only [Bool.and_false, Bool.or_false]

instance {name path : String} : Decidable (Path.IsNamed name path) := inferInstanceAs (Decidable (_ ∧ _))

/-- Whether an issue says that a file is missing which a listed name calls by whole components. -/
def Profile.WaivesByName {α : Type} (profile : Profile α) (issue : Issue) : Prop :=
  issue.issueType = "missing_file" ∧ ∃ name ∈ profile.ignoreMissingFiles, Path.IsNamed name issue.filePath

instance {α : Type} (profile : Profile α) : DecidablePred profile.WaivesByName := fun _ =>
  inferInstanceAs (Decidable (_ ∧ _))

namespace Setting

variable {α : Type} (setting : Setting α)

def withoutWaivers : Setting α := { setting with profile := { setting.profile with ignoreMissingFiles := [] } }

/-- Whether an issue is passed over because of the list of files that may be missing, and counts without it. -/
def Discards (issue : Issue) : Prop := setting.withoutWaivers.counts issue = true ∧ setting.counts issue = false

theorem counts_withoutWaivers (issue : Issue) : setting.withoutWaivers.counts issue =
    (issue.issueType == "validation_error" || !setting.configuration.tolerance.tolerates issue.issueType) := by
  have none : setting.withoutWaivers.profile.waives issue = false := Bool.and_false _
  rw [counts, none, Bool.or_false]
  rfl

theorem discards_iff {issue : Issue} : setting.Discards issue ↔ setting.profile.waives issue = true := by
  rw [Discards, counts_withoutWaivers, counts]
  constructor
  · rintro ⟨counted, dropped⟩
    cases waived : setting.profile.waives issue with
    | true => rfl
    | false =>
      rw [waived, Bool.or_false, counted] at dropped
      contradiction
  · intro waived
    have type : issue.issueType = "missing_file" := beq_iff_eq.mp (Bool.and_eq_true_iff.mp waived).1
    have other : ("missing_file" == "validation_error") = false := by decide
    rw [type, other, Tolerance.tolerates_missing_file, waived]
    decide

theorem waives_iff {profile : Profile α} {issue : Issue} : profile.waives issue = true ↔
    issue.issueType = "missing_file" ∧ ∃ name ∈ profile.ignoreMissingFiles, name.toList <:+ issue.filePath.toList := by
  rw [Profile.waives, Bool.and_eq_true_iff, beq_iff_eq, List.any_eq_true]
  simp only [Text.endsWith_iff]

/-- What a rule finds when the listed names call files by whole components only. -/
def findingsByName (rule : LinkedRule) : List Issue :=
  ((rule.issues setting.site).filter fun issue =>
    setting.withoutWaivers.counts issue && !decide (setting.profile.WaivesByName issue)).map (·.inCategory rule.category)

theorem counts_iff {issue : Issue} : setting.counts issue = true ↔
    setting.withoutWaivers.counts issue = true ∧ ¬ setting.Discards issue := by
  constructor
  · intro counted
    refine ⟨?_, fun discarded => absurd (counted.symm.trans discarded.2) (by decide)⟩
    rw [counts_withoutWaivers]
    rw [counts, Bool.not_or, Bool.or_and_distrib_left, Bool.and_eq_true_iff] at counted
    exact counted.1
  · rintro ⟨counted, kept⟩
    by_contra dropped
    exact kept ⟨counted, Bool.eq_false_iff.mpr dropped⟩

theorem discards_iff_named_or_inside {issue : Issue} : setting.Discards issue ↔ issue.issueType = "missing_file" ∧
    ∃ name ∈ setting.profile.ignoreMissingFiles, Path.IsNamed name issue.filePath ∨ Path.EndsInside name issue.filePath := by
  rw [discards_iff, waives_iff]
  simp only [Path.suffix_iff]

theorem WaivesByName.discards {issue : Issue} (waived : setting.profile.WaivesByName issue) : setting.Discards issue := by
  obtain ⟨type, name, listed, named⟩ := waived
  exact setting.discards_iff_named_or_inside.mpr ⟨type, name, listed, .inl named⟩

variable (rule : LinkedRule)

theorem findings_eq_filter : setting.findings rule =
    ((((rule.issues setting.site).filter fun issue =>
      setting.withoutWaivers.counts issue && !decide (setting.profile.WaivesByName issue)).filter
        fun issue => setting.counts issue).map (·.inCategory rule.category)) := by
  rw [findings, List.filter_filter]
  congr 1
  refine List.filter_congr fun issue _ => ?_
  rw [Bool.eq_iff_iff, Bool.and_eq_true_iff, Bool.and_eq_true_iff]
  refine (and_iff_left_of_imp fun counted => ?_).symm
  obtain ⟨counts, kept⟩ := setting.counts_iff.mp counted
  exact ⟨counts, by simpa using mt (WaivesByName.discards setting) kept⟩

theorem inCategory_mem_findings {issue : Issue} (found : issue ∈ rule.issues setting.site)
    (counted : setting.counts issue = true) : issue.inCategory rule.category ∈ setting.findings rule :=
  List.mem_map_of_mem (List.mem_filter.mpr ⟨found, counted⟩)

theorem counts_withoutWaivers_of_missing_file {issue : Issue} (type : issue.issueType = "missing_file") :
    setting.withoutWaivers.counts issue = true := by
  rw [counts_withoutWaivers, type, Tolerance.tolerates_missing_file, Bool.not_false, Bool.or_true]

/-- The list of files that may be missing drops an issue just when it says that a file is missing and its path ends with a
listed name. What a rule finds is what it finds when names call whole components only, unless a listed name ends inside a
component of some missing path that no listed name calls. -/
theorem findings_eq_findingsByName_iff :
    (∀ issue, setting.Discards issue ↔ issue.issueType = "missing_file" ∧
      ∃ name ∈ setting.profile.ignoreMissingFiles, Path.IsNamed name issue.filePath ∨ Path.EndsInside name issue.filePath) ∧
    (∀ issue ∈ rule.issues setting.site, issue.issueType = "missing_file" → ¬ setting.Discards issue →
      issue.inCategory rule.category ∈ setting.findings rule ∧ setting.passes rule = false) ∧
    (setting.findings rule = setting.findingsByName rule ↔
      ∀ issue ∈ rule.issues setting.site, issue.issueType = "missing_file" →
        (∃ name ∈ setting.profile.ignoreMissingFiles, Path.EndsInside name issue.filePath) →
          setting.profile.WaivesByName issue) := by
  refine ⟨fun issue => setting.discards_iff_named_or_inside, fun issue found type kept => ?_, ?_⟩
  · have told := setting.inCategory_mem_findings rule found
      (setting.counts_iff.mpr ⟨setting.counts_withoutWaivers_of_missing_file type, kept⟩)
    refine ⟨told, ?_⟩
    rw [passes, List.isEmpty_eq_false_iff]
    exact List.ne_nil_of_mem told
  · rw [findings_eq_filter, findingsByName, map_filter_filter_eq_iff]
    refine forall₂_congr fun issue _ => ?_
    rw [Bool.and_eq_true_iff, Bool.not_eq_true', decide_eq_false_iff_not]
    constructor
    · rintro counts type ⟨name, listed, inside⟩
      by_contra unnamed
      obtain ⟨_, kept⟩ := setting.counts_iff.mp
        (counts ⟨setting.counts_withoutWaivers_of_missing_file type, unnamed⟩)
      exact kept (setting.discards_iff_named_or_inside.mpr ⟨type, name, listed, .inr inside⟩)
    · rintro covered ⟨counted, unnamed⟩
      refine setting.counts_iff.mpr ⟨counted, fun discarded => unnamed ?_⟩
      obtain ⟨type, name, listed, named | inside⟩ := setting.discards_iff_named_or_inside.mp discarded
      · exact ⟨type, name, listed, named⟩
      · exact covered type ⟨name, listed, inside⟩

def bareSetting (waived : List String) : Setting Float where
  site := ⟨⟨.directory [], []⟩, "."⟩
  configuration := .default
  profileName := "sample"
  profile := { Profile.default with ignoreMissingFiles := waived }

def fileRule (path : String) : LinkedRule := .ofRule ⟨"file", "", .medium, .layout, .requiredPaths ⟨[path]⟩⟩

def fileIssue (path : String) : Issue :=
  .make path "missing_file" s!"Required file not found: {path}" s!"File {path} must exist" "File does not exist" .medium

theorem issues_fileRule (waived : List String) :
    (fileRule "OLD_README.md").issues (bareSetting waived).site = [fileIssue "OLD_README.md"] := by
  have absent : (bareSetting waived).site.existsAt "OLD_README.md" = false := by
    have pieces : Path.pieces "OLD_README.md" = ["OLD_README.md"] := by decide
    rw [Site.existsAt, FileSystem.pathExists, FileSystem.node?, Site.locate_of_dot rfl (by decide) (by decide), pieces]
    rfl
  have told : Check.RequiredPaths.issue? (bareSetting waived).site "OLD_README.md" = some (fileIssue "OLD_README.md") := by
    rw [Check.RequiredPaths.issue?, if_neg (by decide), absent]
    rfl
  have ran : Check.RequiredPaths.run ⟨["OLD_README.md"]⟩ (bareSetting waived).site = .ok [fileIssue "OLD_README.md"] := by
    rw [Check.RequiredPaths.run, Site.walk_dot rfl rfl]
    exact congrArg Except.ok (List.filterMap_cons_some told)
  have linked : (fileRule "OLD_README.md").run (bareSetting waived).site = .ok [fileIssue "OLD_README.md"] :=
    congrArg (Except.mapError CheckError.message) ran
  rw [LinkedRule.issues, linked]

/-- A file that is missing and not listed fails its rule, and one that is listed is passed over by its name alone. -/
theorem kept_unless_named :
    (bareSetting ["LICENSE"]).passes (fileRule "OLD_README.md") = false ∧
    (bareSetting ["README.md", "OLD_README.md"]).findings (fileRule "OLD_README.md") =
      (bareSetting ["README.md", "OLD_README.md"]).findingsByName (fileRule "OLD_README.md") := by
  constructor
  · have found : fileIssue "OLD_README.md" ∈ (fileRule "OLD_README.md").issues (bareSetting ["LICENSE"]).site := by
      rw [issues_fileRule]
      exact List.mem_cons_self
    have kept : ¬ (bareSetting ["LICENSE"]).Discards (fileIssue "OLD_README.md") := by
      rw [discards_iff]
      decide +kernel
    exact ((findings_eq_findingsByName_iff _ _).2.1 _ found rfl kept).2
  · refine (findings_eq_findingsByName_iff _ _).2.2.mpr fun issue found _ _ => ?_
    rw [issues_fileRule] at found
    rw [List.mem_singleton.mp found]
    decide +kernel

/-- A file is passed over because another one may be missing whose name is the end of its own. -/
theorem file_waived_by_end_of_name :
    ¬ ∀ (setting : Setting Float) (rule : LinkedRule), ∀ issue ∈ rule.issues setting.site,
      setting.Discards issue → setting.profile.WaivesByName issue := by
  intro byName
  have found : fileIssue "OLD_README.md" ∈ (fileRule "OLD_README.md").issues (bareSetting ["README.md"]).site := by
    rw [issues_fileRule]
    exact List.mem_cons_self
  have discarded : (bareSetting ["README.md"]).Discards (fileIssue "OLD_README.md") :=
    (discards_iff_named_or_inside _).mpr
      ⟨rfl, "README.md", List.mem_cons_self, .inr (.inr ⟨"OLD".toList, '_', by decide, by decide⟩)⟩
  exact absurd (byName _ _ _ found discarded) (by decide +kernel)

end Setting

end Plumbline
