import Plumbline.Proofs.Check.Obstacle
import Plumbline.Proofs.Site

namespace Plumbline

namespace Site

variable {site : Site} {patterns : List String}

theorem obstacle?_of_hasRoot (rooted : site.hasRoot = true) :
    site.obstacle? patterns = patterns.findSome? PathPattern.fault? := by
  rw [obstacle?, if_pos rooted, Option.or_none]

theorem obstacle?_of_not_hasRoot (rootless : site.hasRoot = false) :
    site.obstacle? patterns = some ((patterns.findSome? PathPattern.fault?).getD (.rootMissing site.root)) := by
  rw [obstacle?, if_neg (Bool.eq_false_iff.mp rootless), Option.or_some]

theorem exists_walkFiles (rooted : site.hasRoot = true) : ∃ files, site.walkFiles = .ok files := by
  rw [← failure?_eq_none_iff, site.failure?_walkFiles, obstacle?_of_hasRoot rooted]
  rfl

end Site

namespace Check

/-- The lines around a line of the text are there. -/
theorem isSome_markedDeprecated? {lines : List (List Char)} {place : Nat} (inside : place < lines.length) :
    (markedDeprecated? lines place).isSome := by
  have window : ¬ min (place + deprecationWindow + 1) lines.length < place - deprecationWindow := by omega
  rw [markedDeprecated?, if_neg window]
  rfl

end Check

namespace CheckSpec

theorem patterns_of_isIdle {check : CheckSpec} (idle : check.isIdle = true) : check.patterns = [] := by
  cases check <;> first | rfl | exact absurd idle Bool.false_ne_true

variable {check : CheckSpec} {site : Site}

theorem failure?_run_of_hasRoot (rooted : site.hasRoot = true) :
    failure? (check.run site) = check.patterns.findSome? PathPattern.fault? := by
  rw [failure?_run, Site.obstacle?_of_hasRoot rooted]
  split
  · rename_i idle
    rw [patterns_of_isIdle idle, List.findSome?_nil]
  · rfl

/-- On a root that is a directory, a check gives its issues exactly when all of its patterns compile, and what it breaks
off with otherwise is the fault of a component of one of them. The lines around a deprecated feature are always there. -/
theorem run_total (check : CheckSpec) {site : Site} (rooted : site.hasRoot = true) :
    ((∃ issues, check.run site = .ok issues) ↔
      ∀ pattern ∈ check.patterns, PathPattern.IsGlob pattern ∧ PathPattern.IsAccepted pattern) ∧
    (∀ e, check.run site = .error e →
      ∃ pattern ∈ check.patterns, ∃ part ∈ PathPattern.components pattern, PathPattern.Breaks pattern part e) ∧
    ∀ (feature text : List Char) (place : Nat), (Text.lines text).findIdx? (Source.lineDefines feature) = some place →
      (Check.markedDeprecated? (Text.lines text) place).isSome := by
  refine ⟨?_, fun e broke => ?_, fun feature text place found => ?_⟩
  · rw [← failure?_eq_none_iff, failure?_run_of_hasRoot rooted, List.findSome?_eq_none_iff]
    exact forall₂_congr fun pattern _ => PathPattern.fault?_eq_none_iff
  · rw [← failure?_eq_some_iff, failure?_run_of_hasRoot rooted] at broke
    obtain ⟨pattern, member, faulty⟩ := List.exists_of_findSome?_eq_some broke
    exact ⟨pattern, member, PathPattern.exists_breaks_of_fault? faulty⟩
  · obtain ⟨inside, _⟩ := List.findIdx?_eq_some_iff_getElem.mp found
    exact Check.isSome_markedDeprecated? inside

/-- A tree without any files. -/
def emptySite : Site := ⟨⟨.directory [], []⟩, "."⟩

theorem hasRoot_emptySite : emptySite.hasRoot = true := by
  have root : emptySite.files.node? emptySite.root = some (.directory []) := FileSystem.node?_dot rfl
  rw [Site.hasRoot, FileSystem.isDirectory, root]
  rfl

/-- A check for a file that a plain pattern stands for. -/
def readmeCheck : CheckSpec := .readmeSections ⟨"README.md", [], [], 0, 0⟩

theorem run_readmeCheck : emptySite.hasRoot = true ∧ ∃ issues, readmeCheck.run emptySite = .ok issues := by
  refine ⟨hasRoot_emptySite, (run_total readmeCheck hasRoot_emptySite).1.mpr fun pattern member => ?_⟩
  have only : pattern = "README.md" := List.mem_singleton.mp member
  rw [only]
  exact PathPattern.fault?_eq_none_iff.mp (by decide +kernel)

/-- Globs are not all that a check needs to give its issues: their choices may nest too deep. -/
theorem nested_pattern_breaks_off :
    ¬ ∀ (check : CheckSpec) (site : Site), site.hasRoot = true →
      (∀ pattern ∈ check.patterns, PathPattern.IsGlob pattern) → ∃ issues, check.run site = .ok issues := by
  intro total
  have globs : ∀ pattern ∈ [PathPattern.nested 260], PathPattern.IsGlob pattern :=
    List.forall_mem_singleton.mpr (PathPattern.isGlob_nested 260)
  have ran := total (.filePatterns ⟨[PathPattern.nested 260], "missing_file", .low⟩) emptySite hasRoot_emptySite globs
  have compiles := failure?_eq_none_iff.mpr ran
  rw [failure?_run_of_hasRoot hasRoot_emptySite, List.findSome?_eq_none_iff] at compiles
  have broke := compiles (PathPattern.nested 260) List.mem_cons_self
  rw [PathPattern.fault?_nested (by decide)] at broke
  cases broke

end CheckSpec

end Plumbline
