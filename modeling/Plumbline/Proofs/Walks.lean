import Plumbline.Proofs.Removal

namespace Plumbline

/-- What walks of a directory give when they leave out directories of skipped names with all that is in them, and what is
in directories that do not open, and nothing else: everything once, in increasing order of the names on the way to it. -/
structure WalksThrough (top : Node) (opens : List String → Bool) (files : List FoundFile)
    (directories : List (List String)) : Prop where
  mem_files_iff : ∀ names text, ⟨names, text⟩ ∈ files ↔
    top.find? names = some (.file text) ∧ (∀ above ∈ names.dropLast, above ∉ Node.skippedNames) ∧
      ∀ lead, lead <+: names.dropLast → opens lead = true
  mem_directories_iff : ∀ names, names ∈ directories ↔
    names ≠ [] ∧ (∃ entries, top.find? names = some (.directory entries)) ∧
      (∀ step ∈ names, step ∉ Node.skippedNames) ∧ ∀ lead, lead <+: names.dropLast → opens lead = true
  files_increasing : (files.map FoundFile.names).Pairwise (· < ·)
  files_nodup : (files.map FoundFile.names).Nodup
  directories_increasing : directories.Pairwise (· < ·)
  directories_nodup : directories.Nodup
  parent : ∀ file ∈ files, file.names.dropLast = [] ∨ file.names.dropLast ∈ directories

namespace Node

/-- The names of a directory among what a walk passes. -/
def passedDirectory? (passed : List String × Node) : Option (List String) :=
  if passed.2.isDirectory then some passed.1 else none

theorem mem_filterMap_passedDirectory? {passed : List (List String × Node)} {names : List String} :
    names ∈ passed.filterMap passedDirectory? ↔ ∃ entries, (names, .directory entries) ∈ passed := by
  rw [List.mem_filterMap]
  constructor
  · rintro ⟨⟨names', node⟩, member, taken⟩
    cases node with
    | file text => cases taken
    | directory entries =>
      cases taken
      exact ⟨entries, member⟩
  · rintro ⟨entries, member⟩
    exact ⟨_, member, rfl⟩

theorem filterMap_passedDirectory? (passed : List (List String × Node)) :
    passed.filterMap passedDirectory? = (passed.filter (·.2.isDirectory)).map (·.1) := by
  rw [← List.filterMap_eq_map, List.filterMap_filter]
  exact List.filterMap_congr fun first _ => rfl

/-- What stands above a file is a directory. -/
theorem exists_directory_of_find?_file {entries : List (String × Node)} {names : List String} {text : Option String}
    (there : (directory entries).find? names = some (.file text)) :
    ∃ inside, (directory entries).find? names.dropLast = some (.directory inside) := by
  rcases List.eq_nil_or_concat names with rfl | ⟨lead, name, rfl⟩
  · cases Option.some.inj there
  · rw [List.concat_eq_append] at there ⊢
    rw [find?_append] at there
    obtain ⟨above, atLead, leads⟩ := Option.bind_eq_some_iff.mp there
    obtain ⟨inside, _, rfl, _⟩ := find?_cons_eq_some.mp leads
    exact ⟨inside, by rwa [List.dropLast_concat]⟩

section Listed

variable {node : Node} (listed : node.Listed)

include listed

theorem Listed.find?_sorted_eq_file_iff {names : List String} {text : Option String} :
    node.sorted.find? names = some (.file text) ↔ node.find? names = some (.file text) := by
  rw [listed.find?_sorted, Option.map_eq_some_iff]
  constructor
  · rintro ⟨found, there, same⟩
    cases found with
    | file text' => rwa [← same]
    | directory entries => cases same
  · exact fun there => ⟨_, there, rfl⟩

theorem Listed.exists_directory_sorted_iff {names : List String} :
    (∃ entries, node.sorted.find? names = some (.directory entries)) ↔
      ∃ entries, node.find? names = some (.directory entries) := by
  simp only [listed.find?_sorted, Option.map_eq_some_iff]
  constructor
  · rintro ⟨_, found, there, same⟩
    cases found with
    | file text => cases same
    | directory entries => exact ⟨entries, there⟩
  · rintro ⟨entries, there⟩
    exact ⟨_, _, there, rfl⟩

theorem Listed.mem_walkInto_sorted_iff {opens : List String → Bool} {names : List String} {found : Node} :
    (names, found) ∈ walkInto opens [] node.sorted ↔ names ≠ [] ∧ node.sorted.find? names = some found ∧
      (∀ step ∈ entered names found, step ∉ skippedNames) ∧ OpensTo opens [] names := by
  rw [listed.wellFormed_sorted.mem_walkInto_iff]
  constructor
  · rintro ⟨rest, nonempty, rfl, passed⟩
    exact ⟨nonempty, passed⟩
  · rintro ⟨nonempty, passed⟩
    exact ⟨names, nonempty, rfl, passed⟩

theorem Listed.mem_passedFiles_iff {opens : List String → Bool} {names : List String} {text : Option String} :
    ⟨names, text⟩ ∈ (walkInto opens [] node.sorted).filterMap passedFile? ↔ names ≠ [] ∧
      node.find? names = some (.file text) ∧ (∀ above ∈ names.dropLast, above ∉ skippedNames) ∧
        OpensTo opens [] names := by
  rw [mem_filterMap_passedFile?, listed.mem_walkInto_sorted_iff, listed.find?_sorted_eq_file_iff]
  rfl

theorem Listed.mem_passedDirectories_iff {opens : List String → Bool} {names : List String} :
    names ∈ (walkInto opens [] node.sorted).filterMap passedDirectory? ↔ names ≠ [] ∧
      (∃ entries, node.find? names = some (.directory entries)) ∧ (∀ step ∈ names, step ∉ skippedNames) ∧
        OpensTo opens [] names := by
  rw [mem_filterMap_passedDirectory?, ← listed.exists_directory_sorted_iff]
  simp only [listed.mem_walkInto_sorted_iff, entered]
  constructor
  · rintro ⟨entries, nonempty, there, free⟩
    exact ⟨nonempty, ⟨entries, there⟩, free⟩
  · rintro ⟨nonempty, ⟨entries, there⟩, free⟩
    exact ⟨entries, nonempty, there, free⟩

end Listed

/-- In whatever order directories list their entries, a walk that sorts them goes through all that opens. -/
theorem walksThrough_walkInto {entries : List (String × Node)} (listed : (directory entries).Listed)
    (opens : List String → Bool) :
    WalksThrough (directory entries) opens
      ((walkInto opens [] (directory entries).sorted).filterMap passedFile?)
      ((walkInto opens [] (directory entries).sorted).filterMap passedDirectory?) := by
  have increasing : ((walkInto opens [] (directory entries).sorted).map (·.1)).Pairwise (· < ·) :=
    listed.wellFormed_sorted.increasing_walkInto
  have files : (((walkInto opens [] (directory entries).sorted).filterMap passedFile?).map
      FoundFile.names).Pairwise (· < ·) := by
    rw [Site.map_names_passedFiles]
    exact increasing.sublist (List.filter_sublist.map _)
  have directories : ((walkInto opens [] (directory entries).sorted).filterMap
      passedDirectory?).Pairwise (· < ·) := by
    rw [filterMap_passedDirectory?]
    exact increasing.sublist (List.filter_sublist.map _)
  refine ⟨fun names text => ?_, fun names => listed.mem_passedDirectories_iff, files, nodup_of_increasing files,
    directories, nodup_of_increasing directories, fun file member => ?_⟩
  · rw [listed.mem_passedFiles_iff]
    refine ⟨And.right, fun found => ⟨?_, found⟩⟩
    -- nothing but the directory itself is found under no names
    rintro rfl
    cases Option.some.inj found.1
  · obtain ⟨_, there, free, opened⟩ := listed.mem_passedFiles_iff.mp member
    refine or_iff_not_imp_left.mpr fun deeper => listed.mem_passedDirectories_iff.mpr ?_
    refine ⟨deeper, exists_directory_of_find?_file there, free, fun lead before => opened lead ?_⟩
    exact before.trans (List.dropLast_prefix _)

end Node

/-- In increasing order the first thing that is looked for is the least. -/
theorem find?_eq_some_iff_of_increasing {items : List (List String)} {item : List String} {sought : List String → Bool}
    (increasing : items.Pairwise (· < ·)) :
    items.find? sought = some item ↔
      item ∈ items ∧ sought item = true ∧ ∀ other ∈ items, sought other = true → ¬other < item := by
  rw [List.find?_eq_some_iff_append]
  constructor
  · rintro ⟨here, before, behind, rfl, passed⟩
    refine ⟨List.mem_append_right _ List.mem_cons_self, here, fun other member accepted below => ?_⟩
    rcases List.mem_append.mp member with early | late
    · exact absurd accepted (by simpa using passed other early)
    · obtain ⟨_, later, _⟩ := List.pairwise_append.mp increasing
      rcases List.mem_cons.mp late with rfl | late
      · exact List.lt_irrefl _ below
      · exact List.lt_irrefl _ (List.lt_trans below ((List.pairwise_cons.mp later).1 other late))
  · rintro ⟨member, here, least⟩
    obtain ⟨before, behind, rfl⟩ := List.append_of_mem member
    refine ⟨here, before, behind, rfl, fun other early => ?_⟩
    have below := (List.pairwise_append.mp increasing).2.2 other early item List.mem_cons_self
    have refused : ¬sought other = true := fun accepted => least other (List.mem_append_left _ early) accepted below
    simpa using refused

namespace Site

variable {site : Site}

theorem walkDirectories_eq (site : Site) : site.walkDirectories = site.walk.map (·.filterMap Node.passedDirectory?) := by
  rw [walkDirectories]
  cases site.walk <;> rfl

theorem wellFormed_root (formed : site.WellFormed) {node : Node} (there : site.files.node? site.root = some node) :
    node.WellFormed := by
  obtain ⟨_, _, found⟩ := FileSystem.node?_eq_some_iff.mp there
  exact formed.find? found

section Directory

variable {entries : List (String × Node)} (there : site.files.node? site.root = some (.directory entries))

include there

theorem walkFiles_of_directory : site.walkFiles =
    .ok ((Node.walkInto site.opens [] (Node.directory entries).sorted).filterMap Node.passedFile?) := by
  rw [walkFiles_eq, walk_of_directory there]
  rfl

theorem walkDirectories_of_directory : site.walkDirectories =
    .ok ((Node.walkInto site.opens [] (Node.directory entries).sorted).filterMap Node.passedDirectory?) := by
  rw [walkDirectories_eq, walk_of_directory there]
  rfl

/-- The directory found under a name is the first of that name in the order of the walk: none of that name is less. -/
theorem findDirectory?_of_directory (listed : (Node.directory entries).Listed) (name : String) :
    ∃ directories found, site.walkDirectories = .ok directories ∧ site.findDirectory? name = .ok found ∧
      ∀ names, found = some names ↔ names ∈ directories ∧ names.getLast? = some name ∧
        ∀ other ∈ directories, other.getLast? = some name → ¬other < names := by
  have walked := walkDirectories_of_directory there
  have increasing := (Node.walksThrough_walkInto listed site.opens).directories_increasing
  generalize (Node.walkInto site.opens [] (Node.directory entries).sorted).filterMap Node.passedDirectory? = directories
    at walked increasing
  refine ⟨directories, directories.find? (·.getLast? == some name), walked, ?_, fun names => ?_⟩
  · rw [findDirectory?, walked]
    rfl
  · simp only [find?_eq_some_iff_of_increasing increasing, beq_iff_eq]

/-- Run against a directory, both walks succeed, and go through all that is in it but what is skipped and what is in
directories of longer paths than the system takes. The order in which the directories list their entries is immaterial. -/
theorem walks_of_directory (listed : (Node.directory entries).Listed) :
    ∃ files directories, site.walkFiles = .ok files ∧ site.walkDirectories = .ok directories ∧
      WalksThrough (.directory entries) site.opens files directories :=
  ⟨_, _, walkFiles_of_directory there, walkDirectories_of_directory there, Node.walksThrough_walkInto listed site.opens⟩

end Directory

/-- A directory with a file beside a directory whose name begins it, a file under a skipped name and a skipped directory,
listed in no order. -/
def siblings : Site where
  files := ⟨.directory [("venv", .file none), ("a.py", .file none), ("target", .directory [("b.py", .file (some ""))]),
    ("a", .directory [("x.py", .file (some ""))])], []⟩
  root := "."

theorem listed_siblings : siblings.files.top.Listed := by
  have python (name : String) (proper : IsName name) : (Node.directory [(name, .file (some ""))]).Listed :=
    .directory (List.pairwise_singleton ..) (List.forall_mem_singleton.mpr proper) (List.forall_mem_singleton.mpr (.file _))
  refine .directory (by decide) (by decide) ?_
  simp only [List.forall_mem_cons]
  exact ⟨.file none, .file none, python "b.py" (by decide), python "x.py" (by decide), List.forall_mem_nil _⟩

/-- What is in the directory comes before the file whose name its own begins. -/
theorem walks_of_siblings : ∃ files directories,
    siblings.walkFiles = .ok files ∧ siblings.walkDirectories = .ok directories ∧
    WalksThrough siblings.files.top siblings.opens files directories ∧ directories = [["a"]] ∧
    files.map FoundFile.names = [["a", "x.py"], ["a.py"], ["venv"]] := by
  have there : siblings.files.node? siblings.root = some siblings.files.top := FileSystem.node?_dot rfl
  obtain ⟨files, directories, found, found', through⟩ := walks_of_directory there listed_siblings
  refine ⟨files, directories, found, found', through, ?_, ?_⟩
  · rw [walkDirectories_of_directory there] at found'
    exact (Except.ok.inj found').symm
  · rw [walkFiles_of_directory there] at found
    cases found
    rfl

/-- A path to a directory with a number of slashes behind it. -/
def slashed : Nat → String
  | 0 => "root"
  | n + 1 => slashed n ++ "/"

theorem utf8ByteSize_slashed (n : Nat) : (slashed n).utf8ByteSize = n + 4 := by
  induction n with
  | zero => rfl
  | succ n ih =>
    rw [slashed, String.utf8ByteSize_append, ih]
    exact Nat.add_right_comm n 4 1

theorem toList_slashed (n : Nat) : (slashed n).toList = "root".toList ++ List.replicate n '/' := by
  induction n with
  | zero => rfl
  | succ n ih =>
    rw [slashed, String.toList_append, ih, List.append_assoc, List.replicate_succ']
    rfl

theorem pieces_slashed (n : Nat) : Path.pieces (slashed n) = "root" :: List.replicate n "" := by
  induction n with
  | zero => exact Path.pieces_of_slashless (by decide)
  | succ n ih =>
    have last := Path.pieces_append_slash (slashed n) ""
    rw [String.append_empty] at last
    rw [slashed, last, ih, List.replicate_succ', List.cons_append, Path.pieces_of_slashless (by decide)]

theorem join_slashed (n : Nat) {name : String} (relative : Path.isAbsolute name = false) :
    Path.join (slashed (n + 1)) name = slashed (n + 1) ++ name := by
  have last : (slashed (n + 1)).toList.getLast? = some '/' := by
    rw [slashed, String.toList_append]
    exact List.getLast?_concat
  rw [Path.join, if_neg (Bool.eq_false_iff.mp relative), if_pos (by simp [last])]

/-- A directory with a note in it. -/
def payments : List (String × Node) := [("loans_and_payments", .directory [("note.txt", .file (some ""))])]

theorem listed_payments : (Node.directory payments).Listed := by
  have inner : (Node.directory [("note.txt", .file (some ""))]).Listed :=
    .directory (List.pairwise_singleton ..) (by decide) (List.forall_mem_singleton.mpr (.file _))
  exact .directory (List.pairwise_singleton ..) (by decide) (List.forall_mem_singleton.mpr inner)

/-- A directory under a path with a number of slashes at its end. -/
def slashedSite (n : Nat) : Site where
  files := ⟨.directory [("root", .directory payments)], []⟩
  root := slashed n

theorem isUsable_slashed {n : Nat} (short : n + 4 ≤ FileSystem.longestPath) : FileSystem.IsUsable (slashed n) := by
  refine ⟨?_, fun empty => ?_, (utf8ByteSize_slashed n).trans_le short⟩
  · rw [toList_slashed]
    simp
  · have size := utf8ByteSize_slashed n
    rw [empty] at size
    exact absurd size.symm (Nat.succ_ne_zero _)

theorem node?_slashedSite {n : Nat} (short : n + 4 ≤ FileSystem.longestPath) :
    (slashedSite n).files.node? (slashedSite n).root = some (.directory payments) := by
  have origin : (slashedSite n).files.origin (slashed n) = [] := by
    have relative : Path.isAbsolute (slashed n) = false := by
      rw [Path.isAbsolute, toList_slashed]
      rfl
    rw [FileSystem.origin, if_neg (Bool.eq_false_iff.mp relative)]
    rfl
  have stays (k : Nat) : (List.replicate k "").foldlM (slashedSite n).files.step ["root"] = .ok ["root"] := by
    induction k with
    | zero => rfl
    | succ k ih => exact ih
  refine FileSystem.node?_eq_some_iff.mpr ⟨["root"], FileSystem.locate_eq_ok_iff.mpr ⟨isUsable_slashed short, ?_⟩, rfl⟩
  change (Path.pieces (slashed n)).foldlM (slashedSite n).files.step ((slashedSite n).files.origin (slashed n)) = _
  rw [origin, pieces_slashed]
  exact stays n

/-- What is in a directory of too long a path is passed over, though the directory itself is not. -/
theorem long_path_hides_note : (slashedSite 4080).files.node? (slashedSite 4080).root = some (.directory payments) ∧
    (Node.directory payments).Listed ∧ (slashedSite 4080).walkFiles = .ok [] ∧
    (slashedSite 4080).walkDirectories = .ok [["loans_and_payments"]] ∧
    ¬∃ files directories, (slashedSite 4080).walkFiles = .ok files ∧
      (slashedSite 4080).walkDirectories = .ok directories ∧
      WalksThrough (.directory payments) (fun _ => true) files directories := by
  have there : (slashedSite 4080).files.node? (slashedSite 4080).root = some (.directory payments) :=
    node?_slashedSite (by decide)
  have opened : (slashedSite 4080).opens [] = true := by
    rw [opens, decide_eq_true_iff]
    exact (utf8ByteSize_slashed 4080).trans_le (by decide)
  have closed : (slashedSite 4080).opens ["loans_and_payments"] = false := by
    have path : Path.join (slashedSite 4080).root "loans_and_payments" = slashed 4080 ++ "loans_and_payments" :=
      join_slashed 4079 (by decide)
    rw [opens, decide_eq_false_iff_not, List.foldl_cons, List.foldl_nil, path, String.utf8ByteSize_append,
      utf8ByteSize_slashed]
    decide
  have walked : Node.walkInto (slashedSite 4080).opens [] (Node.directory payments).sorted =
      [(["loans_and_payments"], .directory [("note.txt", .file (some ""))])] := by
    have sorted : (Node.directory payments).sorted = .directory payments := rfl
    have unskipped : Node.isSkipped "loans_and_payments" (.directory [("note.txt", .file (some ""))]) = false := by decide
    rw [sorted]
    simp [payments, Node.walkInto, Node.walk, opened, closed, unskipped]
  have files : (slashedSite 4080).walkFiles = .ok [] := by
    rw [walkFiles_of_directory there, walked]
    rfl
  have directories : (slashedSite 4080).walkDirectories = .ok [["loans_and_payments"]] := by
    rw [walkDirectories_of_directory there, walked]
    rfl
  refine ⟨there, listed_payments, files, directories, ?_⟩
  rintro ⟨found, _, walkedFiles, _, through⟩
  rw [files] at walkedFiles
  cases walkedFiles
  have note := (through.mem_files_iff ["loans_and_payments", "note.txt"] (some "")).mpr
    ⟨rfl, by decide, fun _ _ => rfl⟩
  exact List.not_mem_nil note

end Site

end Plumbline
