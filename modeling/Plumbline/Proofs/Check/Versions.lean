import Mathlib.Data.List.Sort
import Plumbline.Proofs.Check.Presence

namespace Plumbline.Check

open Site

/-- The tags that are files of their own. -/
def looseTags (site : Site) : List String :=
  match site.files.node? (site.locate ".git/refs/tags") with
  | some (.directory entries) => entries.map (·.1)
  | _ => []

/-- The tags that one file lists. -/
def packedTags (site : Site) : List String :=
  match site.files.read (site.locate ".git/packed-refs") with
  | .ok text => (Text.lines text.toList).filterMap packedTag?
  | .error _ => []

theorem gitTags_eq (site : Site) :
    gitTags site = (NameMap.ofList ((looseTags site ++ packedTags site).map fun tag => (tag, ()))).keys := rfl

theorem mem_gitTags {site : Site} {tag : String} : tag ∈ gitTags site ↔ tag ∈ looseTags site ∨ tag ∈ packedTags site := by
  rw [gitTags_eq, NameMap.mem_keys_ofList, List.map_map, ← List.mem_append]
  simp

theorem gitTags_increasing (site : Site) : (gitTags site).Pairwise (· < ·) := NameMap.keys_increasing _

theorem looseTags_of_not_directory {site : Site} (absent : site.isDirectoryAt ".git/refs/tags" = false) :
    looseTags site = [] := by
  rw [isDirectoryAt, FileSystem.isDirectory] at absent
  rw [looseTags]
  split
  · rename_i entries found
    rw [found] at absent
    cases absent
  · rfl

/-- Where a tag stands that is a file of its own. -/
def tagPlace (site : Site) (tag : String) : List String := site.place ++ [".git", "refs", "tags", tag]

/-- Whether a tag is lost with what stands at a place. -/
def isLost (site : Site) (place : List String) (tag : String) : Bool :=
  tagPlace site tag == place && !(packedTags site).contains tag

section Without

variable {site : Site} {place : List String} (unread : site.files.top.find? place = some (.file none))

include unread

theorem packedTags_without : packedTags (site.without place) = packedTags site := by
  have same {text : String} : (site.without place).files.read (site.locate ".git/packed-refs") = .ok text ↔
      site.files.read (site.locate ".git/packed-refs") = .ok text := FileSystem.read_without unread
  rw [packedTags, packedTags, locate_without]
  cases left : (site.without place).files.read (site.locate ".git/packed-refs") with
  | ok text => rw [same.mp left]
  | error e =>
    cases whole : site.files.read (site.locate ".git/packed-refs") with
    | ok text =>
      rw [same.mpr whole] at left
      cases left
    | error e' => rfl

theorem looseTags_without (rooted : site.hasRoot = true) :
    looseTags (site.without place) = (looseTags site).filter fun tag => tagPlace site tag != place := by
  cases directory : site.isDirectoryAt ".git/refs/tags" with
  | false =>
    have directory' : (site.without place).isDirectoryAt ".git/refs/tags" = false :=
      (isDirectoryAt_without unread _).trans directory
    rw [looseTags_of_not_directory directory, looseTags_of_not_directory directory']
    rfl
  | true =>
    obtain ⟨node, found, isDirectory⟩ := (Option.any_eq_true ..).mp directory
    obtain ⟨goal, led, there⟩ := FileSystem.node?_eq_some_iff.mp found
    cases node with
    | file text => cases isDirectory
    | directory entries =>
      have turns : (Path.pieces ".git/refs/tags").foldl Path.turn site.place = site.place ++ [".git", "refs", "tags"] := by
        have pieces : Path.pieces ".git/refs/tags" = [".git", "refs", "tags"] := by decide
        rw [pieces]
        exact Path.foldl_turn_of_isName (by decide)
      have reached : goal = site.place ++ [".git", "refs", "tags"] :=
        (eq_foldl_turn_of_locate rooted (by decide) led).trans turns
      have left : (site.without place).files.node? (site.locate ".git/refs/tags") = _ :=
        FileSystem.node?_without_of_directory unread led there
      rw [looseTags, looseTags, locate_without, left, found]
      dsimp only
      rw [Node.map_fst_pruneAmong, reached]
      simp only [List.append_assoc, List.cons_append, List.nil_append, tagPlace]

/-- Without a file that cannot be read, only the tag is gone that this file alone stands for. -/
theorem gitTags_without (rooted : site.hasRoot = true) :
    gitTags (site.without place) = (gitTags site).filter (!isLost site place ·) := by
  refine (gitTags_increasing _).eq_of_mem_iff ((gitTags_increasing site).filter _) fun tag => ?_
  have lost : (!isLost site place tag) = true ↔ tagPlace site tag ≠ place ∨ tag ∈ packedTags site := by
    simp [isLost]
  rw [mem_gitTags, looseTags_without unread rooted, packedTags_without unread, List.mem_filter, List.mem_filter,
    mem_gitTags, lost, bne_iff_ne, and_or_right]

end Without

namespace VersionFormat

def missing (check : VersionFormat) : List Issue :=
  let file := check.file
  [.make file "missing_file" s!"{file} not found" s!"{file} must declare the project version" "File does not exist"
    .medium]

def content (path text : String) : List Issue := (versionIssue? path text).toList

def missingTags : Issue :=
  .make ".git/refs/tags" "missing_release_tags" "No release tags found" "Releases must be tagged vMAJOR.MINOR.PATCH"
    "No tags" .low

/-- What is reported of the release tags of a site, on request. -/
def tagIssues (check : VersionFormat) (site : Site) : List Issue :=
  if check.checkTags && site.isDirectoryAt ".git" then reportOf [missingTags] tagIssue? (gitTags site) else []

theorem run_eq (check : VersionFormat) (site : Site) :
    check.run site = site.findFile? check.file >>= fun found =>
      pure (issuesOfFirst check.missing content found ++ check.tagIssues site) := by
  rw [run]
  congr 1
  funext found
  have closes (version : List Issue) :
      (if check.checkTags && site.isDirectoryAt ".git" then
        pure (version ++ (if (gitTags site).isEmpty then [missingTags] else []) ++ (gitTags site).filterMap tagIssue?)
      else pure version : Except CheckError (List Issue)) = pure (version ++ check.tagIssues site) := by
    rw [tagIssues]
    split
    · rw [List.append_assoc, reportOf]
      cases gitTags site <;> rfl
    · rw [List.append_nil]
  cases found <;> exact closes _

theorem filePath_of_mem_content {path text : String} {issue : Issue} (member : issue ∈ content path text) :
    issue.filePath = path := by
  have told := Option.mem_toList.mp member
  rw [versionIssue?] at told
  split at told
  · cases told
    rfl
  · split at told
    · cases told
    · cases told
      rfl

/-- An empty project file declares no version. -/
theorem content_empty (path : String) : content path "" =
    [.make path "missing_version" s!"{path} declares no version" "version = \"MAJOR.MINOR.PATCH\"" "No version key"
      .medium] := by
  have none : Version.ofProject? "" = none := by decide
  rw [content, versionIssue?, none]
  rfl

theorem tagIssue?_eq_none_iff {tag : String} :
    tagIssue? tag = none ↔ Version.isSemantic (String.ofList (tag.toList.dropWhile (· == 'v'))) = true := by
  rw [tagIssue?]
  split
  · exact iff_of_true rfl ‹_›
  · exact iff_of_false (Option.some_ne_none _) ‹_›

theorem issueType_of_tagIssue? {tag : String} {issue : Issue} (told : tagIssue? tag = some issue) :
    issue.issueType = "invalid_tag_format" := by
  rw [tagIssue?] at told
  split at told
  · cases told
  · cases told
    rfl

variable (check : VersionFormat) {site : Site} {place : List String}

/-- An unreadable file among the release tags, if these are asked for, shows when it alone stands for a tag that is none
of a version, or for the only tag. -/
def NoticesTag (site : Site) (place : List String) : Prop :=
  check.checkTags = true ∧ site.isDirectoryAt ".git" = true ∧
    ((∃ tag ∈ gitTags site, isLost site place tag = true ∧
        Version.isSemantic (String.ofList (tag.toList.dropWhile (· == 'v'))) = false) ∨
      gitTags site ≠ [] ∧ ∀ tag ∈ gitTags site, isLost site place tag = true)

/-- An unreadable file shows in a check of a version as the first match, or as a release tag. -/
def Notices (site : Site) (place : List String) : Prop :=
  (∃ rest, site.Leads place check.file rest) ∨
    (∃ found, site.findFile? check.file = .ok found) ∧ check.NoticesTag site place

theorem tagIssues_without_iff (unread : site.files.top.find? place = some (.file none)) (rooted : site.hasRoot = true) :
    check.tagIssues (site.without place) = check.tagIssues site ↔ ¬ check.NoticesTag site place := by
  rw [tagIssues, tagIssues, isDirectoryAt_without unread, NoticesTag, ← and_assoc, ← Bool.and_eq_true]
  split
  · rename_i asked
    have invalid {tag : String} : tagIssue? tag ≠ none ↔
        Version.isSemantic (String.ofList (tag.toList.dropWhile (· == 'v'))) = false := by
      rw [ne_eq, tagIssue?_eq_none_iff, Bool.not_eq_true]
    have typed : ∀ issue ∈ [missingTags], ∀ tag, tagIssue? tag ≠ some issue := by
      intro issue member tag told
      rw [List.mem_singleton.mp member] at told
      exact absurd (issueType_of_tagIssue? told) (by decide)
    have lost {tag : String} : (!isLost site place tag) = false ↔ isLost site place tag = true := by simp
    rw [gitTags_without unread rooted, reportOf_filter_iff typed, and_iff_right asked]
    simp only [invalid, lost, ne_eq, List.cons_ne_nil, not_false_eq_true, and_true]
  · rename_i unasked
    exact iff_of_true rfl fun noticed => unasked noticed.1

/-- The version that an unreadable first match lacks is not missed anywhere else. -/
theorem run_without_iff (formed : site.WellFormed) (unread : site.files.top.find? place = some (.file none)) :
    check.run (site.without place) = check.run site ↔ ¬ check.Notices site place := by
  rw [run_eq, run_eq, Notices]
  by_cases leads : ∃ rest, site.Leads place check.file rest
  · refine iff_of_false (fun same => ?_) (not_not.mpr (.inl leads))
    obtain ⟨rest, leads⟩ := leads
    obtain ⟨first, found, next, text, paths⟩ := leads.findFile?_without formed unread
    rw [found, next] at same
    have told : ∃ issue ∈ issuesOfFirst check.missing content (some first),
        issue.issueType = "missing_version" ∧ issue.filePath = first.path := by
      rw [issuesOfFirst, text, Option.getD_none, content_empty]
      exact ⟨_, List.mem_cons_self, rfl, rfl⟩
    obtain ⟨issue, member, type, path⟩ := told
    have elsewhere : issue ∈ issuesOfFirst check.missing content rest.head? ++ check.tagIssues (site.without place) := by
      rw [Except.ok.inj same]
      exact List.mem_append_left _ member
    rcases List.mem_append.mp elsewhere with version | tags
    · cases rest with
      | nil =>
        rw [List.mem_singleton.mp version] at type
        exact absurd type (by decide : "missing_file" ≠ "missing_version")
      | cons other rest =>
        exact paths other List.mem_cons_self ((filePath_of_mem_content version).symm.trans path)
    · rw [tagIssues] at tags
      split at tags
      · rw [reportOf] at tags
        split at tags
        · rw [List.mem_singleton.mp tags] at type
          exact absurd type (by decide)
        · obtain ⟨_, _, invalid⟩ := List.mem_filterMap.mp tags
          exact absurd ((issueType_of_tagIssue? invalid).symm.trans type) (by decide)
      · cases tags
  · rw [findFile?_without_of_not_leads formed unread (not_exists.mp leads), or_iff_right leads]
    cases asked : site.findFile? check.file with
    | error e => exact iff_of_true rfl (by simp)
    | ok found =>
      have rooted := hasRoot_of_findFile? asked
      rw [and_iff_right ⟨found, rfl⟩, ← check.tagIssues_without_iff unread rooted]
      refine ⟨fun same => List.append_cancel_left (Except.ok.inj same), fun same => ?_⟩
      rw [same]

end VersionFormat

end Plumbline.Check
