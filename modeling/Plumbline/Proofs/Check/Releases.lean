import Plumbline.Proofs.Check.Versions
import Plumbline.Proofs.Version

namespace Plumbline.Check.VersionFormat

open Site
open Text
open Version

def LooksAtTags (check : VersionFormat) (site : Site) : Prop :=
  check.checkTags = true ∧ site.isDirectoryAt ".git" = true

/-- Whether the first project file of a site declares a version. -/
def Declares (check : VersionFormat) (site : Site) (version : String) : Prop :=
  ∃ file, site.findFile? check.file = .ok (some file) ∧ ofProject? (file.text.getD "") = some version

def RefusesVersion (issues : List Issue) : Prop := ∃ issue ∈ issues, issue.issueType = "invalid_version_format"

def refusedTags (issues : List Issue) : List String :=
  (issues.filter (·.issueType == "invalid_tag_format")).map Issue.actual

/-- Whether what stands in a tag behind every leading v is a version with any decimal digits. -/
def IsLooseVersion (tag : String) : Prop := IsVersion isDecimal (tag.toList.dropWhile (· == 'v'))

/-- Whether a tag is a version in ASCII behind at most one v. -/
def IsStrictVersion (tag : String) : Prop := IsVersion Char.isDigit (unprefixed tag.toList)

instance : DecidablePred (IsVersion isDecimal) := fun s =>
  decidable_of_iff (isSemantic (String.ofList s) = true) (by rw [isSemantic_iff, String.toList_ofList])

instance : DecidablePred IsLooseVersion := fun _ => inferInstanceAs (Decidable (IsVersion isDecimal _))

instance : DecidablePred (IsVersion Char.isDigit) := fun s =>
  decidable_of_iff ((isSemantic (String.ofList s) && s.all fun c => Nat.blt c.toNat 128) = true) (by
    rw [isVersion_isDigit_iff, Bool.and_eq_true, isSemantic_iff, String.toList_ofList, List.all_eq_true]
    simp only [Nat.blt_eq])

instance : DecidablePred IsStrictVersion := fun _ => inferInstanceAs (Decidable (IsVersion Char.isDigit _))

theorem actual_of_tagIssue? {tag : String} {issue : Issue} (told : tagIssue? tag = some issue) : issue.actual = tag := by
  rw [tagIssue?] at told
  split at told
  · cases told
  · cases told
    rfl

theorem tagIssue?_eq_none_iff_isLooseVersion {tag : String} : tagIssue? tag = none ↔ IsLooseVersion tag := by
  rw [tagIssue?_eq_none_iff, isSemantic_iff, String.toList_ofList, IsLooseVersion]

/-- Of the tags in a listing, those are refused that are no versions behind all their leading letters v. -/
theorem refusedTags_filterMap (tags : List String) :
    refusedTags (tags.filterMap tagIssue?) = tags.filter fun tag => ¬ IsLooseVersion tag := by
  induction tags with
  | nil => rfl
  | cons tag tags ih =>
    by_cases loose : IsLooseVersion tag
    · have silent : tagIssue? tag = none := tagIssue?_eq_none_iff_isLooseVersion.mpr loose
      rw [List.filterMap_cons_none silent, List.filter_cons_of_neg (by simpa using loose), ih]
    · obtain ⟨issue, told⟩ := Option.ne_none_iff_exists'.mp (mt tagIssue?_eq_none_iff_isLooseVersion.mp loose)
      have typed : (issue.issueType == "invalid_tag_format") = true := beq_iff_eq.mpr (issueType_of_tagIssue? told)
      rw [List.filterMap_cons_some told, List.filter_cons_of_pos (by simpa using loose), ← ih]
      simp only [refusedTags, List.filter_cons, typed, if_true, List.map_cons, actual_of_tagIssue? told]

theorem refusedTags_append (issues others : List Issue) :
    refusedTags (issues ++ others) = refusedTags issues ++ refusedTags others := by
  rw [refusedTags, List.filter_append, List.map_append]
  rfl

theorem refusedTags_eq_nil {issues : List Issue} (typed : ∀ issue ∈ issues, issue.issueType ≠ "invalid_tag_format") :
    refusedTags issues = [] := by
  rw [refusedTags, List.map_eq_nil_iff, List.filter_eq_nil_iff]
  exact fun issue member same => typed issue member (beq_iff_eq.mp same)

section Content

variable {path text version : String}

theorem issueType_of_mem_content {issue : Issue} (member : issue ∈ content path text) :
    issue.issueType = "missing_version" ∨ issue.issueType = "invalid_version_format" := by
  have told := Option.mem_toList.mp member
  rw [versionIssue?] at told
  split at told
  · cases told
    exact .inl rfl
  · split at told
    · cases told
    · cases told
      exact .inr rfl

theorem refusesVersion_content_iff (declared : ofProject? text = some version) :
    RefusesVersion (content path text) ↔ ¬ IsVersion isDecimal version.toList := by
  rw [← isSemantic_iff, content, versionIssue?, declared]
  dsimp only
  split
  · rename_i accepted
    refine iff_of_false ?_ (not_not.mpr accepted)
    rintro ⟨_, none, _⟩
    cases none
  · rename_i refused
    exact iff_of_true ⟨_, Option.mem_toList.mpr rfl, rfl⟩ refused

end Content

section Run

variable (check : VersionFormat) {site : Site} {issues : List Issue}

theorem issueType_of_mem_tagIssues {issue : Issue} (member : issue ∈ check.tagIssues site) :
    issue.issueType = "missing_release_tags" ∨ issue.issueType = "invalid_tag_format" := by
  rw [tagIssues] at member
  split at member
  · rw [reportOf] at member
    split at member
    · rw [List.mem_singleton.mp member]
      exact .inl rfl
    · obtain ⟨_, _, told⟩ := List.mem_filterMap.mp member
      exact .inr (issueType_of_tagIssue? told)
  · cases member

theorem exists_run_eq_ok_iff :
    (∃ issues, check.run site = .ok issues) ↔ ∃ found, site.findFile? check.file = .ok found := by
  rw [run_eq]
  cases site.findFile? check.file with
  | error e => simp [bind, Except.bind]
  | ok found => simp [bind, Except.bind, pure, Except.pure]

theorem refusesVersion_iff (ran : check.run site = .ok issues) {version : String} (declares : check.Declares site version) :
    RefusesVersion issues ↔ ¬ IsVersion isDecimal version.toList := by
  obtain ⟨file, found, declared⟩ := declares
  rw [run_eq, found] at ran
  obtain rfl := Except.ok.inj ran
  rw [← refusesVersion_content_iff declared]
  constructor
  · rintro ⟨issue, member, type⟩
    rcases List.mem_append.mp member with version | tags
    · exact ⟨issue, version, type⟩
    · rcases check.issueType_of_mem_tagIssues tags with other | other
      · exact absurd (other.symm.trans type) (by decide)
      · exact absurd (other.symm.trans type) (by decide)
  · rintro ⟨issue, member, type⟩
    exact ⟨issue, List.mem_append_left _ member, type⟩

theorem refusedTags_tagIssues (looks : check.LooksAtTags site) :
    refusedTags (check.tagIssues site) = (gitTags site).filter fun tag => ¬ IsLooseVersion tag := by
  have asked : (check.checkTags && site.isDirectoryAt ".git") = true := Bool.and_eq_true_iff.mpr looks
  rw [tagIssues, if_pos asked]
  by_cases none : gitTags site = []
  · rw [none]
    rfl
  · rw [reportOf_of_ne_nil none, refusedTags_filterMap]

theorem refusedTags_issuesOfFirst (found : Option FoundFile) :
    refusedTags (issuesOfFirst check.missing content found) = [] := by
  refine refusedTags_eq_nil fun issue member => ?_
  cases found with
  | none =>
    rw [List.mem_singleton.mp member]
    exact (by decide : "missing_file" ≠ "invalid_tag_format")
  | some file =>
    rcases issueType_of_mem_content member with type | type <;> rw [type] <;> decide

theorem refusedTags_eq (ran : check.run site = .ok issues) (looks : check.LooksAtTags site) :
    refusedTags issues = (gitTags site).filter fun tag => ¬ IsLooseVersion tag := by
  rw [run_eq] at ran
  cases found : site.findFile? check.file with
  | error e =>
    rw [found] at ran
    cases ran
  | ok first =>
    rw [found] at ran
    obtain rfl := Except.ok.inj ran
    rw [refusedTags_append, refusedTags_issuesOfFirst, List.nil_append, check.refusedTags_tagIssues looks]

end Run

theorem filter_eq_filter_iff {α : Type} {p q : α → Bool} {items : List α} :
    items.filter p = items.filter q ↔ ∀ a ∈ items, p a = q a := by
  refine ⟨fun same a member => Bool.eq_iff_iff.mpr ?_, List.filter_congr⟩
  have kept : a ∈ items.filter p ↔ a ∈ items.filter q := by rw [same]
  simpa [List.mem_filter, member] using kept

/-- Versions and release tags are judged by the grammar of versions, in which any decimal digit counts and any number of leading
letters v is passed over. The judgement is that of ASCII digits behind at most one v just when no version holds digits beyond
ASCII and no tag that is accepted begins with two letters v. -/
theorem judges_by_grammar (check : VersionFormat) (site : Site) :
    (∀ version, isSemantic version = true ↔ IsVersion isDecimal version.toList) ∧
    (∀ tags : List String, refusedTags (tags.filterMap tagIssue?) = tags.filter fun tag => ¬ IsLooseVersion tag) ∧
    ((∃ issues, check.run site = .ok issues) ↔ ∃ found, site.findFile? check.file = .ok found) ∧
    ∀ issues, check.run site = .ok issues →
      (∀ version, check.Declares site version →
        (RefusesVersion issues ↔ ¬ IsVersion isDecimal version.toList) ∧
        ((RefusesVersion issues ↔ ¬ IsVersion Char.isDigit version.toList) ↔
          (IsVersion isDecimal version.toList → ∀ c ∈ version.toList, c.toNat < 128))) ∧
      (check.LooksAtTags site →
        refusedTags issues = (gitTags site).filter (fun tag => ¬ IsLooseVersion tag) ∧
        (refusedTags issues = (gitTags site).filter (fun tag => ¬ IsStrictVersion tag) ↔
          ∀ tag ∈ gitTags site, IsLooseVersion tag →
            (∀ c ∈ tag.toList, c.toNat < 128) ∧ ¬ ['v', 'v'] <+: tag.toList)) := by
  refine ⟨fun version => isSemantic_iff, refusedTags_filterMap, check.exists_run_eq_ok_iff, fun issues ran => ?_⟩
  refine ⟨fun version declares => ?_, fun looks => ?_⟩
  · have refuses := check.refusesVersion_iff ran declares
    refine ⟨refuses, ?_⟩
    rw [refuses, isVersion_isDigit_iff, not_iff_not]
    exact iff_self_and
  · have refused := check.refusedTags_eq ran looks
    refine ⟨refused, ?_⟩
    rw [refused, filter_eq_filter_iff]
    refine forall₂_congr fun tag _ => ?_
    rw [decide_eq_decide, not_iff_not, IsStrictVersion, isVersion_unprefixed_iff]
    exact iff_self_and

def projectText (version : String) : String := "[project]\nversion = \"" ++ version ++ "\"\n"

def releaseSite (version tag : String) : Site where
  files := ⟨.directory [(".git", .directory [("refs", .directory [("tags", .directory [(tag, .file (some "abc\n"))])])]),
    ("pyproject.toml", .file (some (projectText version)))], []⟩
  root := "."

section ReleaseSite

variable (version tag : String)

theorem findFile?_releaseSite : (releaseSite version tag).findFile? "pyproject.toml" =
    .ok (some ⟨["pyproject.toml"], some (projectText version)⟩) := by
  have walked : (releaseSite version tag).walkFiles = .ok [⟨["pyproject.toml"], some (projectText version)⟩] := by
    have opened : ∀ names ∈ [[]], (releaseSite version tag).opens names = true := Site.opens_of_dot rfl (by decide)
    have sorted : (releaseSite version tag).files.top.sorted = (releaseSite version tag).files.top :=
      Node.sorted_directory_eq_self (List.pairwise_pair.mpr (by decide : ".git" < "pyproject.toml"))
        (List.forall_mem_cons.mpr ⟨rfl, List.forall_mem_singleton.mpr rfl⟩)
    simp only [List.forall_mem_singleton] at opened
    rw [Site.walkFiles, Site.walk_dot_of_sorted rfl rfl sorted]
    simp [Node.walkInto, Node.walk, Node.isSkipped, Node.skippedNames, opened]
  have parsed : PathPattern.parseAll ["pyproject.toml"] = .ok [⟨["pyproject.toml".toList.map .literal]⟩] := by
    have alone : PathPattern.components "pyproject.toml" = ["pyproject.toml"] := by decide +kernel
    have glob : Glob.parse "pyproject.toml".toList = .ok ("pyproject.toml".toList.map .literal) :=
      Glob.parse_of_plain (by decide +kernel)
    exact mapM_eq_ok_of_forall₂ (.cons (PathPattern.parse_eq_ok alone (.cons ⟨glob, by decide +kernel⟩ .nil)) .nil)
  have matched : PathPattern.isMatch ⟨["pyproject.toml".toList.map .literal]⟩ ["pyproject.toml"] = true := by
    decide +kernel
  have found : (releaseSite version tag).filesMatching ["pyproject.toml"] =
      .ok [⟨["pyproject.toml"], some (projectText version)⟩] := by
    rw [Site.filesMatching, parsed, walked]
    exact congrArg Except.ok (List.filter_cons_of_pos (by rw [List.any_cons, matched]; rfl))
  exact findFile?_of_filesMatching found

theorem gitTags_releaseSite : gitTags (releaseSite version tag) = [tag] := by
  have loose : looseTags (releaseSite version tag) = [tag] := by
    have pieces : Path.pieces ".git/refs/tags" = [".git", "refs", "tags"] := by decide
    rw [looseTags, FileSystem.node?, Site.locate_of_dot rfl (by decide) (by decide), pieces]
    rfl
  have packed : packedTags (releaseSite version tag) = [] := by
    have pieces : Path.pieces ".git/packed-refs" = [".git", "packed-refs"] := by decide
    rw [packedTags, FileSystem.read, Site.locate_of_dot rfl (by decide) (by decide), pieces]
    rfl
  rw [gitTags_eq, loose, packed]
  rfl

theorem isDirectoryAt_releaseSite : (releaseSite version tag).isDirectoryAt ".git" = true := by
  have pieces : Path.pieces ".git" = [".git"] := by decide
  rw [Site.isDirectoryAt, FileSystem.isDirectory, FileSystem.node?, Site.locate_of_dot rfl (by decide) (by decide), pieces]
  rfl

theorem looksAtTags_releaseSite : LooksAtTags ⟨"pyproject.toml", true⟩ (releaseSite version tag) :=
  ⟨rfl, isDirectoryAt_releaseSite version tag⟩

theorem declares_releaseSite (declared : ofProject? (projectText version) = some version) :
    Declares ⟨"pyproject.toml", true⟩ (releaseSite version tag) version :=
  ⟨_, findFile?_releaseSite version tag, declared⟩

theorem exists_run_releaseSite :
    ∃ issues, run ⟨"pyproject.toml", true⟩ (releaseSite version tag) = .ok issues :=
  (exists_run_eq_ok_iff ⟨"pyproject.toml", true⟩).mpr ⟨_, findFile?_releaseSite version tag⟩

end ReleaseSite

/-- A version without a third number is refused, and so is a tag that is no version. -/
theorem judges_short_version_and_named_tag :
    ∃ issues, run ⟨"pyproject.toml", true⟩ (releaseSite "1.0" "release-2") = .ok issues ∧
      RefusesVersion issues ∧ refusedTags issues = ["release-2"] := by
  obtain ⟨_, _, runs, judged⟩ := judges_by_grammar ⟨"pyproject.toml", true⟩ (releaseSite "1.0" "release-2")
  obtain ⟨issues, ran⟩ := runs.mpr ⟨_, findFile?_releaseSite "1.0" "release-2"⟩
  obtain ⟨version, tags⟩ := judged issues ran
  have declares := declares_releaseSite "1.0" "release-2" (by decide +kernel)
  refine ⟨issues, ran, (version "1.0" declares).1.mpr (by decide +kernel), ?_⟩
  rw [(tags (looksAtTags_releaseSite _ _)).1, gitTags_releaseSite]
  decide +kernel

/-- Digits of another script pass for those of a version, and a tag passes with two letters v in front. -/
theorem foreign_digits_and_second_v_accepted :
    ¬ ∀ (check : VersionFormat) (site : Site) (issues : List Issue), check.run site = .ok issues →
      (∀ version, check.Declares site version → (RefusesVersion issues ↔ ¬ IsVersion Char.isDigit version.toList)) ∨
      (check.LooksAtTags site → refusedTags issues = (gitTags site).filter fun tag => ¬ IsStrictVersion tag) := by
  intro strict
  obtain ⟨issues, ran⟩ := exists_run_releaseSite "\u0661.\u0662.\u0663" "vv1.0.0"
  have declares := declares_releaseSite "\u0661.\u0662.\u0663" "vv1.0.0" (by decide +kernel)
  have looks := looksAtTags_releaseSite "\u0661.\u0662.\u0663" "vv1.0.0"
  rcases strict _ _ issues ran with versions | tags
  · have foreign : ¬ IsVersion Char.isDigit "\u0661.\u0662.\u0663".toList := fun strict =>
      absurd ((isVersion_isDigit_iff.mp strict).2 '\u0661' (by decide)) (by decide)
    exact absurd ((versions _ declares).mpr foreign) (by rw [refusesVersion_iff _ ran declares]; decide +kernel)
  · have listed := tags looks
    rw [refusedTags_eq _ ran looks, gitTags_releaseSite, filter_eq_filter_iff] at listed
    have same := listed "vv1.0.0" List.mem_cons_self
    rw [decide_eq_decide, not_iff_not, IsStrictVersion, isVersion_unprefixed_iff] at same
    have loose : IsLooseVersion "vv1.0.0" := by decide +kernel
    exact (same.mp loose).2.2 ⟨"1.0.0".toList, by decide⟩

end Plumbline.Check.VersionFormat
