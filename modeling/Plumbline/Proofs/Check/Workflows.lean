import Plumbline.Proofs.Check.Presence
import Plumbline.Proofs.Rootless
import Plumbline.Proofs.Text.Infix

namespace Plumbline.Check

/-- Whether workflows are looked for in a file with these names. -/
def IsWorkflow (names : List String) : Prop :=
  ∃ lead name, names = lead ++ [".github", "workflows", name] ∧
    (".yml".toList <:+ name.toList ∨ ".yaml".toList <:+ name.toList)

/-- The pattern for workflows, compiled. -/
def workflowFiles : PathPattern :=
  ⟨[".github".toList.map .literal, "workflows".toList.map .literal,
    .many :: (".".toList.map .literal ++ [.choice (["yml".toList, "yaml".toList].map (·.map .literal))])]⟩

theorem parse_workflowPattern : PathPattern.parse workflowPattern = .ok workflowFiles := by
  have parts : PathPattern.components workflowPattern = [".github", "workflows", "*.\x7byml,yaml\x7d"] := by
    decide +kernel
  refine PathPattern.parse_eq_ok parts (.cons ⟨Glob.parse_of_plain (by decide +kernel), by decide +kernel⟩
    (.cons ⟨Glob.parse_of_plain (by decide +kernel), by decide +kernel⟩ (.cons ⟨?_, by decide +kernel⟩ .nil)))
  rfl

theorem isMatch_workflowFiles_iff {names : List String} : workflowFiles.isMatch names = true ↔ IsWorkflow names := by
  have endings {name : String} : Glob.isMatch (.many :: (".".toList.map .literal ++
      [.choice (["yml".toList, "yaml".toList].map (·.map .literal))])) name = true ↔
        ".yml".toList <:+ name.toList ∨ ".yaml".toList <:+ name.toList := by
    rw [Glob.isMatch_star_choice (by decide) (by decide)]
    simp
  simp only [workflowFiles, PathPattern.isMatch_iff, List.forall₂_cons_left_iff, List.forall₂_nil_left_iff,
    Glob.isMatch_literals, endings, String.toList_inj]
  constructor
  · rintro ⟨_, lead, _, rfl, _, _, rfl, ⟨_, _, rfl, ⟨name, _, ends, rfl, rfl⟩, rfl⟩, rfl⟩
    exact ⟨lead, name, rfl, ends⟩
  · rintro ⟨lead, name, rfl, ends⟩
    exact ⟨List.cons_ne_nil _ _, lead, _, rfl, _, _, rfl, ⟨_, _, rfl, ⟨name, _, ends, rfl, rfl⟩, rfl⟩, rfl⟩

instance (names : List String) : Decidable (IsWorkflow names) := decidable_of_iff _ isMatch_workflowFiles_iff

namespace CiPipeline

/-- Whether a text mentions every step, where case does not matter. -/
def Covers (check : CiPipeline) (text : String) : Prop :=
  ∀ step ∈ check.steps, Text.lower step.toList <:+: Text.lower text.toList

instance (check : CiPipeline) (text : String) : Decidable (check.Covers text) :=
  inferInstanceAs (Decidable (∀ step ∈ check.steps, _))

/-- The workflows among some files that can be read, and their texts. -/
def readable (files : List FoundFile) : List (FoundFile × String) :=
  files.filterMap fun file => if IsWorkflow file.names then file.text.map (file, ·) else none

/-- Whether a text speaks of the tools of a language. -/
def speaksOfTools (text : String) : Bool :=
  Text.contains "python".toList (Text.lower text.toList) || Text.contains "node".toList (Text.lower text.toList)

/-- The workflow that is looked at: of those that can be read the first that speaks of tools, or else the first. -/
def main? (files : List FoundFile) : Option (FoundFile × String) :=
  ((readable files).find? fun found => speaksOfTools found.2).or (readable files).head?

/-- There are workflows, and none of them can be read. -/
def AllUnread (files : List FoundFile) : Prop :=
  (∃ file ∈ files, IsWorkflow file.names) ∧ ∀ file ∈ files, IsWorkflow file.names → file.text = none

section Main

variable {files : List FoundFile} {file : FoundFile} {text : String} {found : FoundFile × String}

theorem mem_readable_iff :
    (file, text) ∈ readable files ↔ file ∈ files ∧ IsWorkflow file.names ∧ file.text = some text := by
  simp only [readable, List.mem_filterMap, Option.ite_none_right_eq_some, Option.map_eq_some_iff, Prod.mk.injEq]
  constructor
  · rintro ⟨file, member, workflow, text, reads, rfl, rfl⟩
    exact ⟨member, workflow, reads⟩
  · rintro ⟨member, workflow, reads⟩
    exact ⟨file, member, workflow, text, reads, rfl, rfl⟩

theorem mem_readable_of_main? (main : main? files = some found) : found ∈ readable files := by
  rcases Option.or_eq_some_iff.mp main with speaks | ⟨_, first⟩
  · exact List.mem_of_find?_eq_some speaks
  · exact List.mem_of_mem_head? first

theorem main?_eq_none_iff : main? files = none ↔ readable files = [] := by
  rw [main?, Option.or_eq_none_iff, List.head?_eq_none_iff]
  refine and_iff_right_of_imp fun nothing => ?_
  rw [nothing, List.find?_nil]

/-- The workflows as they are looked at. -/
theorem mainWorkflow?_texts (files : List FoundFile) :
    mainWorkflow? ((files.filter fun file => IsWorkflow file.names).filterMap fun file =>
      file.text.map fun text => (file.path, Text.lower text.toList)) =
        (main? files).map fun found => (found.1.path, Text.lower found.2.toList) := by
  have texts : ((files.filter fun file => IsWorkflow file.names).filterMap fun file =>
      file.text.map fun text => (file.path, Text.lower text.toList)) =
        (readable files).map fun found => (found.1.path, Text.lower found.2.toList) := by
    rw [readable, List.filterMap_filter, List.map_filterMap]
    refine List.filterMap_congr fun file _ => ?_
    by_cases workflow : IsWorkflow file.names
    · simp [workflow, Function.comp_def]
    · simp [workflow]
  rw [texts, mainWorkflow?, main?, List.find?_map, List.head?_map, Option.map_or]
  rfl

theorem exists_mem_readable (workflows : ∃ file ∈ files, IsWorkflow file.names) (read : ¬ AllUnread files) :
    readable files ≠ [] := by
  intro nothing
  refine read ⟨workflows, fun file member workflow => ?_⟩
  by_contra held
  obtain ⟨text, reads⟩ := Option.ne_none_iff_exists'.mp held
  have listed := mem_readable_iff.mpr ⟨member, workflow, reads⟩
  rw [nothing] at listed
  exact absurd listed List.not_mem_nil

end Main

section Run

variable {site : Site} {files : List FoundFile}

theorem stepIssues_eq_nil_iff (check : CiPipeline) (files : List FoundFile) :
    check.stepIssues ((files.filter fun file => IsWorkflow file.names).filterMap fun file =>
      file.text.map fun text => (file.path, Text.lower text.toList)) = [] ↔
        ∀ found ∈ main? files, check.Covers found.2 := by
  rw [stepIssues, mainWorkflow?_texts]
  cases main? files with
  | none => simp
  | some found =>
    simp only [Option.map_some, List.filterMap_eq_nil_iff, Option.mem_some_iff, forall_eq', Covers]
    refine forall₂_congr fun step _ => ?_
    rw [stepIssue?, ← Text.contains_iff]
    split <;> simp_all

theorem run_of_walkFiles (check : CiPipeline) (walked : site.walkFiles = .ok files) :
    check.run site = .ok (check.issues (files.filter fun file => IsWorkflow file.names)) := by
  have matched : site.filesMatching [workflowPattern] = .ok (files.filter fun file => IsWorkflow file.names) := by
    have compiled : PathPattern.parseAll [workflowPattern] = .ok [workflowFiles] :=
      mapM_eq_ok_of_forall₂ (.cons parse_workflowPattern .nil)
    rw [Site.filesMatching, compiled, walked]
    refine congrArg Except.ok (List.filter_congr fun file _ => ?_)
    rw [List.any_cons, List.any_nil, Bool.or_false, Bool.eq_iff_iff, isMatch_workflowFiles_iff, decide_eq_true_iff]
  rw [run_eq, matched]
  rfl

/-- A check of workflows passes where there are workflows and the one that is looked at, if any of them can be read,
mentions every step. -/
theorem run_eq_ok_nil_iff (check : CiPipeline) (walked : site.walkFiles = .ok files) :
    check.run site = .ok [] ↔
      (∃ file ∈ files, IsWorkflow file.names) ∧ ∀ found ∈ main? files, check.Covers found.2 := by
  have none_iff : (files.filter fun file => IsWorkflow file.names) = [] ↔ ¬ ∃ file ∈ files, IsWorkflow file.names := by
    simp
  rw [run_of_walkFiles check walked, Except.ok.injEq, issues]
  split
  · rename_i empty
    simp [none_iff.mp (List.isEmpty_iff.mp empty)]
  · rename_i nonempty
    rw [List.isEmpty_iff, none_iff, not_not] at nonempty
    rw [stepIssues_eq_nil_iff, and_iff_right nonempty]

/-- Where the root is a directory, a check of workflows comes to an end, and what it passes has a workflow that can be
read and mentions every step, unless there are workflows none of which can be read: then it passes whatever it asks
for. -/
theorem passes_soundly_iff (check : CiPipeline) (rooted : site.hasRoot = true) :
    ∃ files, site.walkFiles = .ok files ∧ (∃ issues, check.run site = .ok issues) ∧
      (check.run site = .ok [] ↔
        (∃ file ∈ files, IsWorkflow file.names) ∧ ∀ found ∈ main? files, check.Covers found.2) ∧
      ((check.run site = .ok [] →
          ∃ file ∈ files, IsWorkflow file.names ∧ ∃ text, file.text = some text ∧ check.Covers text) ↔
        ¬ AllUnread files) := by
  obtain ⟨files, walked⟩ : ∃ files, site.walkFiles = .ok files := by
    rw [← failure?_eq_none_iff, site.failure?_walkFiles, Site.obstacle?, rooted]
    rfl
  have passes := run_eq_ok_nil_iff check walked
  refine ⟨files, walked, ⟨_, run_of_walkFiles check walked⟩, passes, fun sound unread => ?_, fun read passed => ?_⟩
  · have nothing : readable files = [] := by
      refine List.eq_nil_iff_forall_not_mem.mpr fun found member => ?_
      obtain ⟨listed, workflow, reads⟩ := mem_readable_iff.mp member
      rw [unread.2 _ listed workflow] at reads
      cases reads
    have passed : check.run site = .ok [] := by
      refine passes.mpr ⟨unread.1, fun found main => ?_⟩
      rw [main?_eq_none_iff.mpr nothing] at main
      cases main
    obtain ⟨file, member, workflow, text, reads, _⟩ := sound passed
    rw [unread.2 file member workflow] at reads
    cases reads
  · obtain ⟨workflows, covers⟩ := passes.mp passed
    obtain ⟨found, main⟩ := Option.ne_none_iff_exists'.mp (mt main?_eq_none_iff.mp (exists_mem_readable workflows read))
    obtain ⟨member, workflow, reads⟩ := mem_readable_iff.mp (mem_readable_of_main? main)
    exact ⟨found.1, member, workflow, found.2, reads, covers found main⟩

end Run

/-- A tree whose only files are two workflows. -/
def workflowSite (first second : Option String) : Site :=
  let workflows : Node := .directory [("a.yml", .file first), ("b.yaml", .file second)]
  ⟨⟨.directory [(".github", .directory [("workflows", workflows)])], []⟩, "."⟩

theorem walkFiles_workflowSite (first second : Option String) : (workflowSite first second).walkFiles =
    .ok [⟨[".github", "workflows", "a.yml"], first⟩, ⟨[".github", "workflows", "b.yaml"], second⟩] := by
  have opened : ∀ names ∈ [[], [".github"], [".github", "workflows"]], (workflowSite first second).opens names = true :=
    Site.opens_of_dot rfl (by decide)
  have ordered : (Node.directory [("a.yml", .file first), ("b.yaml", .file second)]).sorted =
      .directory [("a.yml", .file first), ("b.yaml", .file second)] :=
    Node.sorted_directory_eq_self (List.pairwise_pair.mpr (by decide : "a.yml" < "b.yaml"))
      (List.forall_mem_cons.mpr ⟨rfl, List.forall_mem_singleton.mpr rfl⟩)
  have sorted : (workflowSite first second).files.top.sorted = (workflowSite first second).files.top :=
    Node.sorted_directory_eq_self (List.pairwise_singleton ..) (List.forall_mem_singleton.mpr
      (Node.sorted_directory_eq_self (List.pairwise_singleton ..) (List.forall_mem_singleton.mpr ordered)))
  simp only [List.forall_mem_cons] at opened
  rw [Site.walkFiles, Site.walk_dot_of_sorted rfl rfl sorted]
  simp [Node.walkInto, Node.walk, Node.isSkipped, Node.skippedNames, opened]

theorem hasRoot_workflowSite (first second : Option String) : (workflowSite first second).hasRoot = true := by
  rw [Site.hasRoot, FileSystem.isDirectory, workflowSite, FileSystem.node?_dot rfl]
  rfl

theorem passes_soundly_on_second_workflow :
    (workflowSite none (some "Python Tests")).hasRoot = true ∧
      run ⟨["Test"]⟩ (workflowSite none (some "Python Tests")) = .ok [] ∧
      ∃ files, (workflowSite none (some "Python Tests")).walkFiles = .ok files ∧
        ∃ file ∈ files, IsWorkflow file.names ∧ ∃ text, file.text = some text ∧ Covers ⟨["Test"]⟩ text := by
  have rooted := hasRoot_workflowSite none (some "Python Tests")
  obtain ⟨files, walked, _, passes, sound⟩ := passes_soundly_iff ⟨["Test"]⟩ rooted
  obtain rfl := Except.ok.inj ((walkFiles_workflowSite none (some "Python Tests")).symm.trans walked)
  have passed := passes.mpr (by decide +kernel)
  refine ⟨rooted, passed, _, walked, sound.mpr (fun unread => ?_) passed⟩
  have second := unread.2 _ (List.mem_cons_of_mem _ List.mem_cons_self) (by decide +kernel)
  cases second

/-- Workflows that cannot be read mention no step, and pass. -/
theorem unreadable_workflows_pass :
    ¬ ∀ (check : CiPipeline) (site : Site), site.hasRoot = true → check.run site = .ok [] →
      ∃ files, site.walkFiles = .ok files ∧
        ∃ file ∈ files, IsWorkflow file.names ∧ ∃ text, file.text = some text ∧ check.Covers text := by
  intro sound
  have walked := walkFiles_workflowSite none none
  have passed : run ⟨["test"]⟩ (workflowSite none none) = .ok [] :=
    (run_eq_ok_nil_iff _ walked).mpr (by decide +kernel)
  obtain ⟨files, walked', file, member, _, text, reads, _⟩ := sound _ _ (hasRoot_workflowSite none none) passed
  obtain rfl := Except.ok.inj (walked.symm.trans walked')
  simp only [List.mem_cons, List.not_mem_nil, or_false] at member
  rcases member with rfl | rfl <;> cases reads

end CiPipeline

end Plumbline.Check
