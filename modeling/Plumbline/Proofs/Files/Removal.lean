import Plumbline.Proofs.Files.Pruned
import Plumbline.Proofs.Files.Resolution
import Plumbline.Proofs.Files.Walk
import Plumbline.Site

namespace Plumbline

namespace Node

/-- A node without what stands at one place below it. -/
def without (node : Node) (place : List String) : Node := node.prune (· != place)

/-- What is left of a node was in it. -/
theorem find?_of_find?_prune {kept : List String → Bool} {place : List String} {node left : Node}
    (there : (node.prune kept).find? place = some left) :
    ∃ whole, node.find? place = some whole ∧ left = whole.prune fun rest => kept (place ++ rest) := by
  induction place generalizing node kept with
  | nil =>
    cases Option.some.inj there
    exact ⟨node, rfl, rfl⟩
  | cons name place ih =>
    obtain ⟨entries, child, pruned, atName, leads⟩ := find?_cons_eq_some.mp there
    cases node with
    | file text => cases pruned
    | directory entries =>
      cases pruned
      rw [lookup_pruneAmong] at atName
      split at atName
      · obtain ⟨child, here, rfl⟩ := Option.map_eq_some_iff.mp atName
        obtain ⟨whole, found, left⟩ := ih leads
        exact ⟨whole, find?_cons_eq_some.mpr ⟨entries, child, rfl, here, found⟩, left⟩
      · cases atName

section Without

variable {node : Node} {place other : List String} {text : Option String}

theorem ne_of_find?_without {left : Node} (named : place ≠ []) (there : (node.without place).find? other = some left) :
    other ≠ place := by
  rintro rfl
  obtain ⟨lead, name, rfl⟩ := (List.eq_nil_or_concat other).resolve_left named
  rw [List.concat_eq_append] at there
  exact absurd (kept_of_find?_prune there) (by simp)

/-- Without a file there is no less anywhere else. -/
theorem find?_without (there : node.find? place = some (.file text)) (elsewhere : other ≠ place) :
    (node.without place).find? other = (node.find? other).map (Node.prune fun rest => other ++ rest != place) := by
  by_cases beyond : place <+: other
  · -- nothing is behind a file
    obtain ⟨rest, rfl⟩ := beyond
    have further : rest ≠ [] := fun empty => elsewhere (by rw [empty, List.append_nil])
    obtain ⟨name, rest, rfl⟩ := List.exists_cons_of_ne_nil further
    have none : node.find? (place ++ name :: rest) = none := by
      rw [find?_append, there]
      rfl
    rw [none, Option.map_none]
    cases found : (node.without place).find? (place ++ name :: rest) with
    | none => rfl
    | some left =>
      obtain ⟨whole, before, _⟩ := find?_of_find?_prune found
      rw [none] at before
      cases before
  · refine find?_prune fun lead name before => bne_iff_ne.mpr ?_
    rintro rfl
    exact beyond before

end Without

/-- The file among what a walk passes. -/
def passedFile? : List String × Node → Option FoundFile
  | (names, .file text) => some ⟨names, text⟩
  | (_, .directory _) => none

theorem mem_filterMap_passedFile? {passed : List (List String × Node)} {names : List String} {text : Option String} :
    ⟨names, text⟩ ∈ passed.filterMap passedFile? ↔ (names, .file text) ∈ passed := by
  rw [List.mem_filterMap]
  constructor
  · rintro ⟨⟨names', node⟩, member, taken⟩
    cases node with
    | file text' =>
      cases taken
      exact member
    | directory entries => cases taken
  · exact fun member => ⟨_, member, rfl⟩

section Pruned

variable {kept opens : List String → Bool}

@[simp] theorem isSkipped_prune (name : String) (node : Node) : isSkipped name (node.prune kept) = isSkipped name node := by
  cases node <;> rfl

mutual
/-- Where only files are pruned, a walk misses these and nothing else. -/
theorem files_walk_pruneAmong (lead : List String) (entries : List (String × Node))
    (whole : ∀ passed ∈ walk opens lead entries, passed.2.isDirectory = true → kept passed.1 = true) :
    (walk opens lead (pruneAmong (fun place => kept (lead ++ place)) entries)).filterMap passedFile? =
      ((walk opens lead entries).filterMap passedFile?).filter (kept ·.names) :=
  match entries with
  | [] => rfl
  | (name, node) :: rest => by
    have later := files_walk_pruneAmong lead rest fun passed member =>
      whole passed (List.mem_append_right _ member)
    have below := files_walkInto_prune (lead ++ [name]) node
    simp only [List.append_assoc, List.singleton_append] at below
    by_cases skipped : isSkipped name node = true
    · rw [pruneAmong, walk, if_pos skipped, List.nil_append, ← later]
      split
      · rw [List.singleton_append, walk, isSkipped_prune, if_pos skipped, List.nil_append]
      · rw [List.nil_append]
    have here : ∀ passed ∈ (lead ++ [name], node) :: walkInto opens (lead ++ [name]) node,
        passed.2.isDirectory = true → kept passed.1 = true := by
      intro passed member
      refine whole passed (List.mem_append_left _ ?_)
      rwa [if_neg skipped]
    obtain ⟨self, inside⟩ := List.forall_mem_cons.mp here
    rw [pruneAmong, walk, if_neg skipped, List.filterMap_append, List.filter_append, ← later]
    by_cases stays : kept (lead ++ [name]) = true
    · rw [if_pos stays, List.singleton_append, walk, isSkipped_prune, if_neg skipped, List.filterMap_append,
        List.filterMap_cons, List.filterMap_cons, below inside]
      cases node with
      | file text => simp [prune, passedFile?, stays]
      | directory entries => simp [prune, passedFile?]
    · cases node with
      | file text => simp [passedFile?, walkInto, stays]
      | directory entries => exact absurd (self rfl) stays

theorem files_walkInto_prune (lead : List String) (node : Node)
    (whole : ∀ passed ∈ walkInto opens lead node, passed.2.isDirectory = true → kept passed.1 = true) :
    (walkInto opens lead (node.prune fun place => kept (lead ++ place))).filterMap passedFile? =
      ((walkInto opens lead node).filterMap passedFile?).filter (kept ·.names) :=
  match node with
  | .file _ => rfl
  | .directory entries => by
    rw [prune, walkInto, walkInto]
    split
    · rename_i here
      exact files_walk_pruneAmong lead entries fun passed member =>
        whole passed (mem_walkInto_directory_iff.mpr ⟨here, member⟩)
    · rfl
end

end Pruned

end Node

namespace FileSystem

variable {files : FileSystem} {place : List String} {text : Option String}

/-- A file system without what stands at one place. -/
def without (files : FileSystem) (place : List String) : FileSystem := { files with top := files.top.without place }

/-- Without a file, paths lead where they led, unless that was to the file. -/
theorem locate_without_eq_ok_iff (there : files.top.find? place = some (.file text)) {path : String}
    {goal : List String} (elsewhere : goal ≠ place) :
    (files.without place).locate path = .ok goal ↔ files.locate path = .ok goal := by
  rw [locate_eq_ok_iff, locate_eq_ok_iff]
  refine and_congr_right fun _ => ⟨fun led => ?_, fun led => ?_⟩
  · refine foldlM_step_transfer (fun visited _ node found => ?_) led
    obtain ⟨whole, before, rfl⟩ := Node.find?_of_find?_prune found
    exact ⟨whole, before, (Node.isDirectory_prune whole).symm⟩
  · refine foldlM_step_transfer (fun visited member node found => ?_) led
    have passes : visited ≠ place := by
      rcases directoryAt_of_mem_places led member with rfl | ⟨entries, directory⟩
      · exact elsewhere
      · rintro rfl
        rw [there] at directory
        cases directory
    refine ⟨_, (Node.find?_without there passes).trans (congrArg _ found), Node.isDirectory_prune node⟩

theorem node?_without_eq_some_iff (named : place ≠ []) (there : files.top.find? place = some (.file text)) {path : String}
    {left : Node} :
    (files.without place).node? path = some left ↔
      ∃ goal node, files.locate path = .ok goal ∧ goal ≠ place ∧ files.top.find? goal = some node ∧
        left = node.prune fun rest => goal ++ rest != place := by
  rw [node?_eq_some_iff]
  constructor
  · rintro ⟨goal, led, found⟩
    have elsewhere : goal ≠ place := Node.ne_of_find?_without named found
    obtain ⟨node, before, same⟩ := Node.find?_of_find?_prune found
    exact ⟨goal, node, (locate_without_eq_ok_iff there elsewhere).mp led, elsewhere, before, same⟩
  · rintro ⟨goal, node, led, elsewhere, found, rfl⟩
    exact ⟨goal, (locate_without_eq_ok_iff there elsewhere).mpr led,
      (Node.find?_without there elsewhere).trans (congrArg _ found)⟩

theorem without_nil (there : files.top.find? [] = some (.file text)) : files.without [] = files := by
  obtain ⟨top, working⟩ := files
  obtain rfl : top = .file text := Option.some.inj there
  rfl

/-- Without a file the same paths lead to directories. -/
theorem isDirectory_without (there : files.top.find? place = some (.file text)) (path : String) :
    (files.without place).isDirectory path = files.isDirectory path := by
  by_cases named : place = []
  · subst named
    rw [without_nil there]
  rw [isDirectory, isDirectory, Bool.eq_iff_iff, Option.any_eq_true, Option.any_eq_true]
  constructor
  · rintro ⟨left, found, directory⟩
    obtain ⟨goal, node, led, _, before, rfl⟩ := (node?_without_eq_some_iff named there).mp found
    exact ⟨node, node?_eq_some_iff.mpr ⟨goal, led, before⟩, (Node.isDirectory_prune node) ▸ directory⟩
  · rintro ⟨node, found, directory⟩
    obtain ⟨goal, led, before⟩ := node?_eq_some_iff.mp found
    have elsewhere : goal ≠ place := by
      rintro rfl
      rw [there] at before
      cases before
      cases directory
    exact ⟨_, (node?_without_eq_some_iff named there).mpr ⟨goal, node, led, elsewhere, before, rfl⟩,
      (Node.isDirectory_prune node).trans directory⟩

/-- Without a file a directory has the other entries. -/
theorem node?_without_of_directory (there : files.top.find? place = some (.file text)) {path : String}
    {goal : List String} {entries : List (String × Node)} (led : files.locate path = .ok goal)
    (found : files.top.find? goal = some (.directory entries)) :
    (files.without place).node? path =
      some (.directory (Node.pruneAmong (fun rest => goal ++ rest != place) entries)) := by
  have elsewhere : goal ≠ place := by
    rintro rfl
    rw [there] at found
    cases found
  have named : place ≠ [] := by
    rintro rfl
    cases goal with
    | nil => exact elsewhere rfl
    | cons name goal =>
      rw [Option.some.inj there] at found
      cases found
  exact (node?_without_eq_some_iff named there).mpr ⟨goal, _, led, elsewhere, found, rfl⟩

/-- Without a file that cannot be read the same texts are read. -/
theorem read_without (there : files.top.find? place = some (.file none)) {path read : String} :
    (files.without place).read path = .ok read ↔ files.read path = .ok read := by
  by_cases named : place = []
  · subst named
    rw [without_nil there]
  rw [read_eq_ok_iff, read_eq_ok_iff, node?_without_eq_some_iff named there, node?_eq_some_iff]
  constructor
  · rintro ⟨goal, node, led, _, before, same⟩
    cases node with
    | file text =>
      rw [same]
      exact ⟨goal, led, before⟩
    | directory entries => cases same
  · rintro ⟨goal, led, before⟩
    refine ⟨goal, _, led, ?_, before, rfl⟩
    rintro rfl
    rw [there] at before
    cases before

end FileSystem

end Plumbline
