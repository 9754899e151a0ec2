import Plumbline.Proofs.Check.Texts
import Plumbline.Proofs.Check.IssueTypes

namespace Plumbline

namespace Site

variable {site : Site} {place : List String}

/-- The file at a place comes first among those that match a pattern, and the others are `rest`. -/
def Leads (site : Site) (place : List String) (pattern : String) (rest : List FoundFile) : Prop :=
  ∃ first, site.filesMatching [pattern] = .ok (first :: rest) ∧ site.standsAt place first = true

theorem Leads.unique {pattern : String} {rest rest' : List FoundFile} (leads : site.Leads place pattern rest)
    (leads' : site.Leads place pattern rest') : rest' = rest := by
  obtain ⟨_, matched, _⟩ := leads
  obtain ⟨_, matched', _⟩ := leads'
  exact (List.cons.inj (Except.ok.inj (matched'.symm.trans matched))).2

theorem hasRoot_of_filesMatching {patterns : List String} {files : List FoundFile}
    (matched : site.filesMatching patterns = .ok files) : site.hasRoot = true := by
  have unhindered : site.obstacle? patterns = none := by
    rw [← site.failure?_filesMatching, matched]
    rfl
  exact hasRoot_of_unhindered unhindered

theorem findFile?_of_filesMatching {pattern : String} {files : List FoundFile}
    (matched : site.filesMatching [pattern] = .ok files) : site.findFile? pattern = .ok files.head? := by
  rw [findFile?, matched]
  rfl

theorem hasRoot_of_findFile? {pattern : String} {found : Option FoundFile} (asked : site.findFile? pattern = .ok found) :
    site.hasRoot = true := by
  rw [findFile?] at asked
  cases matched : site.filesMatching [pattern] with
  | error e => rw [matched] at asked; cases asked
  | ok files => exact hasRoot_of_filesMatching matched

section Without

variable (formed : site.WellFormed) (unread : site.files.top.find? place = some (.file none)) {pattern : String}

include formed unread

/-- Without the first match the next one is found. -/
theorem Leads.findFile?_without {rest : List FoundFile} (leads : site.Leads place pattern rest) :
    ∃ first, site.findFile? pattern = .ok (some first) ∧ (site.without place).findFile? pattern = .ok rest.head? ∧
      first.text = none ∧ ∀ other ∈ rest, other.path ≠ first.path := by
  obtain ⟨first, matched, here⟩ := leads
  obtain ⟨text, others, paths⟩ := (lists_of_filesMatching formed unread matched).of_standsAt here
  refine ⟨first, findFile?_of_filesMatching matched, ?_, text, paths⟩
  have next : (first :: rest).filter (!site.standsAt place ·) = rest := by
    rw [List.filter_cons_of_neg (by simp [here]), others]
  rw [findFile?, filesMatching_without formed unread, matched, Except.map, next]
  rfl

/-- Where another file comes first, that is found as before. -/
theorem findFile?_without_of_not_leads (behind : ∀ rest, ¬ site.Leads place pattern rest) :
    (site.without place).findFile? pattern = site.findFile? pattern := by
  rw [findFile?, findFile?, filesMatching_without formed unread]
  cases matched : site.filesMatching [pattern] with
  | error e => rfl
  | ok files =>
    cases files with
    | nil => rfl
    | cons first rest =>
      have elsewhere : ¬ site.standsAt place first = true := fun here => behind rest ⟨first, matched, here⟩
      rw [Except.map, List.filter_cons_of_pos (by simp [elsewhere])]
      rfl

theorem bind_findFile?_without_iff {α : Type} {f : Option FoundFile → Except CheckError α}
    {Differs : List FoundFile → Prop}
    (compared : ∀ first rest, site.findFile? pattern = .ok (some first) → first.text = none →
      (∀ other ∈ rest, other.path ≠ first.path) → (f rest.head? = f (some first) ↔ ¬ Differs rest)) :
    (site.without place).findFile? pattern >>= f = site.findFile? pattern >>= f ↔
      ¬ ∃ rest, site.Leads place pattern rest ∧ Differs rest := by
  by_cases leads : ∃ rest, site.Leads place pattern rest
  · obtain ⟨rest, leads⟩ := leads
    have only : (∃ rest, site.Leads place pattern rest ∧ Differs rest) ↔ Differs rest :=
      ⟨fun ⟨_, leads', differs⟩ => leads.unique leads' ▸ differs, fun differs => ⟨rest, leads, differs⟩⟩
    obtain ⟨first, found, next, text, paths⟩ := leads.findFile?_without formed unread
    rw [found, next, only]
    exact compared first rest found text paths
  · rw [findFile?_without_of_not_leads formed unread (not_exists.mp leads)]
    exact iff_of_true rfl fun ⟨rest, here, _⟩ => leads ⟨rest, here⟩

end Without

end Site

namespace Check

open Site

/-- What is reported of the first match: of its path and its text, the empty one where it has none. -/
def issuesOfFirst (missing : List Issue) (content : String → String → List Issue) : Option FoundFile → List Issue
  | none => missing
  | some file => content file.path (file.text.getD "")

/-- How a check reports on its first match: each issue shows the path, no text leaves more to report than the empty one,
and an empty file is not taken for a missing one. -/
structure ReadsFirst (missing : List Issue) (content : String → String → List Issue) : Prop where
  located : ∀ path text, ∀ issue ∈ content path text, issue.filePath = path
  least : ∀ path path' text, content path "" = [] → content path' text = []
  told : ∀ path, content path "" ≠ missing

/-- Issues of one type are not taken for that of a missing file, which is of another. -/
theorem ReadsFirst.of_type {missing : List Issue} {content : String → String → List Issue} {type : String}
    (made : ∀ path text, ∀ issue ∈ content path text, issue.filePath = path ∧ issue.issueType = type)
    (least : ∀ path path' text, content path "" = [] → content path' text = [])
    (other : ∃ issue ∈ missing, issue.issueType ≠ type) : ReadsFirst missing content := by
  refine ⟨fun path text issue member => (made path text issue member).1, least, fun path same => ?_⟩
  obtain ⟨issue, member, different⟩ := other
  exact different (made path "" issue (same ▸ member)).2

/-- The next match is reported like an empty first one exactly when there is a next one and neither leaves anything to
report. -/
theorem ReadsFirst.eq_iff {missing : List Issue} {content : String → String → List Issue}
    (reads : ReadsFirst missing content) {first : FoundFile} {rest : List FoundFile} (unread : first.text = none)
    (paths : ∀ other ∈ rest, other.path ≠ first.path) :
    issuesOfFirst missing content rest.head? = issuesOfFirst missing content (some first) ↔
      ¬ (rest = [] ∨ content first.path "" ≠ []) := by
  have empty : issuesOfFirst missing content (some first) = content first.path "" := by
    rw [issuesOfFirst, unread]
    rfl
  rw [empty]
  cases rest with
  | nil => exact iff_of_false (reads.told first.path).symm (by simp)
  | cons other rest =>
    rw [List.head?_cons, issuesOfFirst, or_iff_right (List.cons_ne_nil other rest), not_not]
    constructor
    · intro same
      by_contra some
      obtain ⟨issue, member⟩ := List.exists_mem_of_ne_nil _ some
      have here := reads.located _ _ issue member
      have there := reads.located _ _ issue (same ▸ member)
      exact paths other List.mem_cons_self (there.symm.trans here)
    · intro none
      rw [none, reads.least _ other.path _ none]

theorem ReadsFirst.run_without_iff {missing : List Issue} {content : String → String → List Issue}
    (reads : ReadsFirst missing content) {site : Site} {place : List String} (formed : site.WellFormed)
    (unread : site.files.top.find? place = some (.file none)) {pattern : String} {Heeds : Prop}
    (heeds : ∀ path, content path "" ≠ [] ↔ Heeds) {later : Option FoundFile → Except CheckError (List Issue)}
    (told : ∀ first found found', site.findFile? pattern = .ok first →
      (later found = later found' ↔ issuesOfFirst missing content found = issuesOfFirst missing content found')) :
    (site.without place).findFile? pattern >>= later = site.findFile? pattern >>= later ↔
      ¬ ∃ rest, site.Leads place pattern rest ∧ (rest = [] ∨ Heeds) := by
  refine bind_findFile?_without_iff formed unread fun first rest asked text paths => ?_
  rw [told _ _ _ asked, reads.eq_iff text paths, heeds]

theorem contains_empty (s : List Char) : Text.contains [] s = true := by
  cases s <;> rfl

theorem lower_eq_nil_iff {s : List Char} : Text.lower s = [] ↔ s = [] := by
  have some (c : Char) : Text.lowerChar c ≠ [] := by
    unfold Text.lowerChar
    split
    · simp
    · split <;> simp
  cases s with
  | nil => exact iff_of_true rfl rfl
  | cons c s =>
    refine iff_of_false (fun none => ?_) (List.cons_ne_nil c s)
    have first := (List.append_eq_nil_iff.mp none).1
    split at first
    · cases first
    · exact some c first

/-- What an empty text says, every text says. -/
theorem isMetBy_of_empty {requirement : Requirement} (met : requirement.isMetBy "" = true) (text : String) :
    requirement.isMetBy text = true := by
  obtain ⟨needle, member, occurs⟩ := List.any_eq_true.mp met
  have empty : needle.toList = [] := List.isEmpty_iff.mp occurs
  exact List.any_eq_true.mpr ⟨needle, member, by rw [empty, contains_empty]⟩

namespace FileContent

def missing (check : FileContent) : List Issue :=
  [.make check.file "missing_file" s!"File not found: {check.file}" s!"{check.file} must exist" "File does not exist"
    check.missingSeverity]

def content (check : FileContent) (path text : String) : List Issue :=
  check.requirements.filterMap fun requirement =>
    if requirement.isMetBy text then none
    else
      let description := requirement.description
      some (.make path "missing_content" s!"{path}: {description}" description (noneFound requirement)
        requirement.severity)

theorem run_eq (check : FileContent) (site : Site) :
    check.run site = site.findFile? check.file >>= fun found =>
      pure (issuesOfFirst check.missing check.content found) := by
  rw [run]
  congr 1
  funext found
  cases found <;> rfl

theorem content_eq_nil_iff {check : FileContent} {path text : String} :
    check.content path text = [] ↔ ∀ requirement ∈ check.requirements, requirement.isMetBy text = true := by
  simp [content]

theorem readsFirst (check : FileContent) : ReadsFirst check.missing check.content := by
  have made : ∀ path text, ∀ issue ∈ check.content path text,
      issue.filePath = path ∧ issue.issueType = "missing_content" := by
    intro path text issue member
    obtain ⟨requirement, _, made⟩ := List.mem_filterMap.mp member
    split at made
    · cases made
    · cases made
      exact ⟨rfl, rfl⟩
  have different : "missing_file" ≠ "missing_content" := by decide
  refine .of_type made (fun path path' text none => ?_) ⟨_, List.mem_cons_self, different⟩
  rw [content_eq_nil_iff] at none ⊢
  exact fun requirement member => isMetBy_of_empty (none requirement member) text

/-- An unreadable file shows in a check of contents as its only match, or as the first one where something is required
that an empty text does not say. -/
def Notices (check : FileContent) (site : Site) (place : List String) : Prop :=
  ∃ rest, site.Leads place check.file rest ∧
    (rest = [] ∨ ∃ requirement ∈ check.requirements, requirement.isMetBy "" = false)

theorem run_without_iff (check : FileContent) {site : Site} {place : List String} (formed : site.WellFormed)
    (unread : site.files.top.find? place = some (.file none)) :
    check.run (site.without place) = check.run site ↔ ¬ check.Notices site place := by
  rw [run_eq, run_eq]
  refine check.readsFirst.run_without_iff formed unread (fun path => ?_) fun _ found found' _ => ?_
  · rw [ne_eq, content_eq_nil_iff]
    simp
  · simp [pure, Except.pure]

end FileContent

namespace ReadmeSections

theorem run_eq (check : ReadmeSections) (site : Site) :
    check.run site = site.findFile? check.file >>= fun found => pure (issuesOfFirst [] check.issues found) := by
  rw [run]
  congr 1
  funext found
  cases found <;> rfl

theorem issues_ne_nil (check : ReadmeSections) (path : String) : check.issues path "" ≠ [] := by
  simp [issues, Text.lines]

theorem filePath_of_mem_issues {check : ReadmeSections} {path text : String} {issue : Issue}
    (member : issue ∈ check.issues path text) : issue.filePath = path := by
  have single {condition : Prop} [Decidable condition] {report : Issue} (here : report.filePath = path)
      (listed : issue ∈ if condition then [report] else []) : issue.filePath = path := by
    split at listed
    · rwa [List.mem_singleton.mp listed]
    · cases listed
  have absent {condition : Prop} [Decidable condition] {report : Issue} (here : report.filePath = path)
      (listed : issue ∈ if condition then [] else [report]) : issue.filePath = path := by
    split at listed
    · cases listed
    · rwa [List.mem_singleton.mp listed]
  rw [issues] at member
  rcases List.mem_append.mp member with member | short
  · rcases List.mem_append.mp member with member | title
    · rcases List.mem_append.mp member with critical | important
      · obtain ⟨element, _, rfl⟩ := List.mem_map.mp critical
        rfl
      · exact single rfl important
    · exact absent rfl title
  · exact single rfl short

theorem readsFirst (check : ReadmeSections) : ReadsFirst [] check.issues :=
  ⟨fun _ _ _ => filePath_of_mem_issues, fun path _ _ none => absurd none (check.issues_ne_nil path), check.issues_ne_nil⟩

/-- An unreadable file shows in a check of a readme as its first match. -/
def Notices (check : ReadmeSections) (site : Site) (place : List String) : Prop :=
  ∃ rest, site.Leads place check.file rest

theorem run_without_iff (check : ReadmeSections) {site : Site} {place : List String} (formed : site.WellFormed)
    (unread : site.files.top.find? place = some (.file none)) :
    check.run (site.without place) = check.run site ↔ ¬ check.Notices site place := by
  rw [run_eq, run_eq]
  refine (check.readsFirst.run_without_iff formed unread (fun path => iff_of_true (check.issues_ne_nil path) trivial)
    fun _ found found' _ => ?_).trans (by simp [Notices])
  simp [pure, Except.pure]

end ReadmeSections

namespace BreakingChanges

def content (check : BreakingChanges) (path text : String) : List Issue :=
  check.changes.filterMap (changeIssue? path (Text.lower text.toList))

theorem run_eq (check : BreakingChanges) (site : Site) :
    check.run site = site.findFile? check.changelog >>= fun found =>
      pure (issuesOfFirst [missingChangelog check.changelog] check.content found) := by
  rw [run]
  congr 1
  funext found
  cases found <;> rfl

theorem content_empty_eq_nil_iff {check : BreakingChanges} {path : String} :
    check.content path "" = [] ↔ ∀ change ∈ check.changes, Text.trim change.toList = [] := by
  rw [content, List.filterMap_eq_nil_iff]
  refine forall₂_congr fun change _ => ?_
  have said : Text.contains (Text.lower (Text.trim change.toList)) (Text.lower "".toList) = true ↔
      Text.trim change.toList = [] := List.isEmpty_iff.trans lower_eq_nil_iff
  rw [changeIssue?, ← said]
  split
  · rename_i mentioned
    exact iff_of_true rfl mentioned
  · rename_i unmentioned
    exact iff_of_false (Option.some_ne_none _) unmentioned

theorem readsFirst (check : BreakingChanges) : ReadsFirst [missingChangelog check.changelog] check.content := by
  have made : ∀ path text, ∀ issue ∈ check.content path text,
      issue.filePath = path ∧ issue.issueType = "undocumented_breaking_change" := by
    intro path text issue member
    obtain ⟨change, _, made⟩ := List.mem_filterMap.mp member
    rw [changeIssue?] at made
    split at made
    · cases made
    · cases made
      exact ⟨rfl, rfl⟩
  have different : "missing_changelog" ≠ "undocumented_breaking_change" := by decide
  refine .of_type made (fun path path' text none => ?_) ⟨_, List.mem_cons_self, different⟩
  rw [content_empty_eq_nil_iff] at none
  rw [content, List.filterMap_eq_nil_iff]
  intro change member
  rw [changeIssue?, none change member, lower_eq_nil_iff.mpr rfl, contains_empty, if_pos rfl]

/-- An unreadable file shows in a check of a changelog as its only match, or as the first one where some change is not
blank. -/
def Notices (check : BreakingChanges) (site : Site) (place : List String) : Prop :=
  ∃ rest, site.Leads place check.changelog rest ∧ (rest = [] ∨ ∃ change ∈ check.changes, Text.trim change.toList ≠ [])

theorem run_without_iff (check : BreakingChanges) {site : Site} {place : List String} (formed : site.WellFormed)
    (unread : site.files.top.find? place = some (.file none)) :
    check.run (site.without place) = check.run site ↔ ¬ check.Notices site place := by
  rw [run_eq, run_eq]
  refine check.readsFirst.run_without_iff formed unread (fun path => ?_) fun _ found found' _ => ?_
  · rw [ne_eq, content_empty_eq_nil_iff]
    simp
  · simp [pure, Except.pure]

end BreakingChanges

namespace DocumentationFreshness

def content (check : DocumentationFreshness) (path text : String) : List Issue :=
  (recencyIssue? check.recentMarkers path (Text.lower text.toList)).toList

/-- What is reported of the share of modules with a docstring. -/
def shareIssues (check : DocumentationFreshness) : Option Float → List Issue
  | none => []
  | some ratio =>
    if ratio < check.minDocstringRatio then
      let share := percent ratio
      let least := percent check.minDocstringRatio
      [.make "*.py" "insufficient_documentation" s!"Only {share} of modules carry a docstring" s!"At least {least}" share
        .low]
    else []

theorem run_eq (check : DocumentationFreshness) (site : Site) :
    check.run site = site.findFile? check.changelog >>= fun found => docstringRatio? site >>= fun ratio =>
      pure (issuesOfFirst [missingChangelog check.changelog] check.content found ++ check.shareIssues ratio) := by
  rw [run]
  congr 1
  funext found
  -- whatever the changelog holds, the share of docstrings is reported behind it
  cases found
  all_goals
    dsimp only
    congr 1
    funext ratio
    cases ratio with
    | none => exact congrArg Except.ok (List.append_nil _).symm
    | some ratio =>
      dsimp only [shareIssues]
      split
      · rfl
      · exact congrArg Except.ok (List.append_nil _).symm

theorem content_empty_eq_nil_iff {check : DocumentationFreshness} {path : String} :
    check.content path "" = [] ↔ "" ∈ check.recentMarkers := by
  have said : (check.recentMarkers.any fun marker => Text.contains (Text.lower marker.toList) (Text.lower "".toList)) =
      true ↔ "" ∈ check.recentMarkers := by
    rw [List.any_eq_true]
    constructor
    · rintro ⟨marker, member, occurs⟩
      have empty : marker.toList = [] := lower_eq_nil_iff.mp (List.isEmpty_iff.mp occurs)
      rwa [String.toList_eq_nil_iff.mp empty] at member
    · exact fun member => ⟨"", member, rfl⟩
  rw [content, recencyIssue?, ← said]
  split
  · rename_i recent
    exact iff_of_true rfl recent
  · rename_i outdated
    exact iff_of_false (List.cons_ne_nil _ _) outdated

theorem readsFirst (check : DocumentationFreshness) : ReadsFirst [missingChangelog check.changelog] check.content := by
  have made : ∀ path text, ∀ issue ∈ check.content path text,
      issue.filePath = path ∧ issue.issueType = "outdated_documentation" := by
    intro path text issue member
    have made := Option.mem_toList.mp member
    rw [recencyIssue?] at made
    split at made
    · cases made
    · cases made
      exact ⟨rfl, rfl⟩
  have different : "missing_changelog" ≠ "outdated_documentation" := by decide
  refine .of_type made (fun path path' text none => ?_) ⟨_, List.mem_cons_self, different⟩
  have member := content_empty_eq_nil_iff.mp none
  have said : (check.recentMarkers.any fun marker =>
      Text.contains (Text.lower marker.toList) (Text.lower text.toList)) = true :=
    List.any_eq_true.mpr ⟨"", member, contains_empty _⟩
  rw [content, recencyIssue?, if_pos said]
  rfl

/-- An unreadable file shows in a check of a changelog's recency as its only match, or as the first one where no marker
is empty. -/
def Notices (check : DocumentationFreshness) (site : Site) (place : List String) : Prop :=
  ∃ rest, site.Leads place check.changelog rest ∧ (rest = [] ∨ "" ∉ check.recentMarkers)

theorem run_without_iff (check : DocumentationFreshness) {site : Site} {place : List String} (formed : site.WellFormed)
    (unread : site.files.top.find? place = some (.file none)) :
    check.run (site.without place) = check.run site ↔ ¬ check.Notices site place := by
  rw [run_eq, run_eq, docstringRatio?_without formed unread]
  refine check.readsFirst.run_without_iff formed unread (fun path => not_congr content_empty_eq_nil_iff)
    fun first found found' asked => ?_
  have rooted := hasRoot_of_findFile? asked
  obtain ⟨ratio, asked⟩ : ∃ ratio, docstringRatio? site = .ok ratio := by
    rw [← failure?_eq_none_iff, failure?_docstringRatio?, obstacle?_of_hasRoot rooted]
    rfl
  rw [asked]
  constructor
  · exact fun same => List.append_cancel_right (Except.ok.inj same)
  · intro same
    rw [same]

end DocumentationFreshness

end Check

end Plumbline
