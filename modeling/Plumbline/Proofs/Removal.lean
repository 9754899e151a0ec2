import Plumbline.Proofs.Check.Agreement
import Plumbline.Proofs.Files.Removal

namespace Plumbline

section Bind

variable {ε α β : Type} {x : Except ε α} {h : α → α}

theorem bind_map_eq_bind {f g : α → Except ε β} (same : ∀ a, x = .ok a → f (h a) = g a) : x.map h >>= f = x >>= g := by
  cases x with
  | error e => rfl
  | ok a => exact same a rfl

/-- Where what is asked for first is there, two reports on it are compared; where it is not, both break off alike. -/
theorem bind_map_eq_bind_iff {f g : α → β} {Differs : α → Prop}
    (compared : ∀ a, x = .ok a → (f (h a) = g a ↔ ¬ Differs a)) :
    ((x.map h >>= fun a => pure (f a)) = x >>= fun a => pure (g a)) ↔ ¬ ∃ a, x = .ok a ∧ Differs a := by
  cases x with
  | error e => exact iff_of_true rfl (by simp)
  | ok a =>
    change Except.ok (f (h a)) = Except.ok (g a) ↔ _
    rw [Except.ok.injEq, compared a rfl]
    simp

theorem bind_filter_map {x : Except ε (List α)} {p kept : α → Bool} :
    (x.map (·.filter kept) >>= fun found => pure (found.filter p)) =
      (x >>= fun found => pure (found.filter p)).map (·.filter kept) := by
  cases x with
  | error e => rfl
  | ok found => exact congrArg Except.ok (List.filter_comm ..)

end Bind

namespace Site

variable {site : Site} {place : List String}

/-- A site without what stands at one place. -/
def without (site : Site) (place : List String) : Site := { site with files := site.files.without place }

/-- Whether a file that a walk came by stands at a place. -/
def standsAt (site : Site) (place : List String) (file : FoundFile) : Bool := site.place ++ file.names == place

/-- Files as a walk gives them: under proper names, no two under the same ones, and without a text at a place where none
can be read. -/
structure Lists (site : Site) (place : List String) (files : List FoundFile) : Prop where
  named : ∀ file ∈ files, file.names ≠ [] ∧ ∀ name ∈ file.names, IsName name
  distinct : (files.map FoundFile.names).Nodup
  unread : ∀ file ∈ files, site.standsAt place file = true → file.text = none

theorem Lists.sublist {files fewer : List FoundFile} (lists : site.Lists place files) (sub : fewer.Sublist files) :
    site.Lists place fewer :=
  ⟨fun file member => lists.named file (sub.subset member), lists.distinct.sublist (sub.map _),
    fun file member => lists.unread file (sub.subset member)⟩

theorem Lists.filter {files : List FoundFile} (lists : site.Lists place files) (p : FoundFile → Bool) :
    site.Lists place (files.filter p) := lists.sublist List.filter_sublist

theorem Lists.of_bind_filter {x : Except CheckError (List FoundFile)}
    (lists : ∀ files, x = .ok files → site.Lists place files) {p : FoundFile → Bool} {files : List FoundFile}
    (found : (x >>= fun files => pure (files.filter p)) = .ok files) : site.Lists place files := by
  cases x with
  | error e => cases found
  | ok all =>
    cases found
    exact (lists all rfl).filter p

theorem walkFiles_eq (site : Site) : site.walkFiles = site.walk.map (·.filterMap Node.passedFile?) := by
  rw [walkFiles]
  cases site.walk with
  | error e => rfl
  | ok passed =>
    refine congrArg Except.ok (List.filterMap_congr fun first _ => ?_)
    obtain ⟨names, node⟩ := first
    cases node <;> rfl

/-- A walk starts where the root leads. -/
theorem walk_eq_ok_iff (formed : site.WellFormed) {passed : List (List String × Node)} :
    site.walk = .ok passed ↔ ∃ entries, site.files.locate site.root = .ok site.place ∧
      site.files.top.find? site.place = some (.directory entries) ∧
      passed = Node.walkInto site.opens [] (.directory entries) := by
  have starts {entries : List (String × Node)} (led : site.files.locate site.root = .ok site.place)
      (there : site.files.top.find? site.place = some (.directory entries)) :
      site.walk = .ok (Node.walkInto site.opens [] (.directory entries)) := by
    rw [walk_of_directory (FileSystem.node?_eq_some_iff.mpr ⟨_, led, there⟩), (formed.find? there).sorted_eq_self]
  constructor
  · intro walked
    obtain ⟨led, entries, there⟩ := locate_root (hasRoot_of_walk walked)
    rw [starts led there] at walked
    exact ⟨entries, led, there, (Except.ok.inj walked).symm⟩
  · rintro ⟨entries, led, there, rfl⟩
    exact starts led there

theorem find?_of_mem_walk (formed : site.WellFormed) {passed : List (List String × Node)}
    (walked : site.walk = .ok passed) {names : List String} {node : Node} (member : (names, node) ∈ passed) :
    site.files.top.find? (site.place ++ names) = some node := by
  obtain ⟨entries, _, there, rfl⟩ := (walk_eq_ok_iff formed).mp walked
  obtain ⟨name, rest, rfl, leads⟩ := (formed.find? there).find?_of_mem_walkInto member
  rw [List.nil_append, Node.find?_append, there]
  exact leads

theorem map_names_passedFiles (passed : List (List String × Node)) :
    (passed.filterMap Node.passedFile?).map FoundFile.names = (passed.filter (·.2.isFile)).map (·.1) := by
  induction passed with
  | nil => rfl
  | cons first rest ih =>
    obtain ⟨names, node⟩ := first
    cases node with
    | file text => exact congrArg (names :: ·) ih
    | directory entries => exact ih

/-- The files that a walk comes by are those that it passes. -/
theorem exists_walk_of_walkFiles {files : List FoundFile} (walked : site.walkFiles = .ok files) :
    ∃ passed, site.walk = .ok passed ∧ files = passed.filterMap Node.passedFile? := by
  rw [walkFiles_eq] at walked
  cases found : site.walk with
  | error e => rw [found] at walked; cases walked
  | ok passed =>
    rw [found] at walked
    cases walked
    exact ⟨passed, rfl, rfl⟩

theorem WellFormed.isName_of_mem_walkFiles (formed : site.WellFormed) {files : List FoundFile}
    (walked : site.walkFiles = .ok files) {file : FoundFile} (member : file ∈ files) :
    file.names ≠ [] ∧ ∀ name ∈ file.names, IsName name := by
  obtain ⟨passed, found, rfl⟩ := exists_walk_of_walkFiles walked
  exact formed.isName_of_mem_walk found (Node.mem_filterMap_passedFile?.mp member)

theorem lists_of_walkFiles (formed : site.WellFormed) (unread : site.files.top.find? place = some (.file none))
    {files : List FoundFile} (walked : site.walkFiles = .ok files) : site.Lists place files := by
  refine ⟨fun file => formed.isName_of_mem_walkFiles walked, ?_, fun file member here => ?_⟩
  · obtain ⟨passed, found, rfl⟩ := exists_walk_of_walkFiles walked
    obtain ⟨entries, _, there, rfl⟩ := (walk_eq_ok_iff formed).mp found
    rw [map_names_passedFiles]
    exact (formed.find? there).nodup_walkInto.sublist (List.filter_sublist.map _)
  · obtain ⟨passed, found, rfl⟩ := exists_walk_of_walkFiles walked
    have there := find?_of_mem_walk formed found (Node.mem_filterMap_passedFile?.mp member)
    rw [eq_of_beq here, unread] at there
    exact (Node.file.inj (Option.some.inj there)).symm

section Without

variable (formed : site.WellFormed) (unread : site.files.top.find? place = some (.file none))

theorem WellFormed.without (formed : site.WellFormed) : (site.without place).WellFormed := formed.prune

theorem locate_without (path : String) : (site.without place).locate path = site.locate path := rfl

include unread in
theorem isDirectoryAt_without (path : String) : (site.without place).isDirectoryAt path = site.isDirectoryAt path :=
  FileSystem.isDirectory_without unread _

include unread in
theorem hasRoot_without : (site.without place).hasRoot = site.hasRoot := FileSystem.isDirectory_without unread _

theorem walk_of_not_hasRoot (rootless : site.hasRoot = false) : site.walk = .error (.rootMissing site.root) := by
  rw [← failure?_eq_some_iff, failure?_walk, obstacle?_of_not_hasRoot rootless]
  rfl

include formed unread in
/-- Without a file that cannot be read, a walk gives the other files. -/
theorem walkFiles_without : (site.without place).walkFiles =
    site.walkFiles.map (·.filter (!site.standsAt place ·)) := by
  rw [walkFiles_eq, walkFiles_eq]
  cases rooted : site.hasRoot with
  | false =>
    have rootless : (site.without place).hasRoot = false := (hasRoot_without unread).trans rooted
    rw [walk_of_not_hasRoot rooted, walk_of_not_hasRoot rootless]
    rfl
  | true =>
    obtain ⟨led, entries, there⟩ := locate_root rooted
    have walked : site.walk = .ok (Node.walkInto site.opens [] (.directory entries)) :=
      (walk_eq_ok_iff formed).mpr ⟨entries, led, there, rfl⟩
    have elsewhere : site.place ≠ place := by
      rintro same
      rw [same, unread] at there
      cases there
    have walked' : (site.without place).walk =
        .ok (Node.walkInto site.opens [] ((Node.directory entries).prune fun rest => site.place ++ rest != place)) := by
      refine (walk_eq_ok_iff formed.without).mpr ⟨_, ?_, ?_, rfl⟩
      · exact (FileSystem.locate_without_eq_ok_iff unread elsewhere).mpr led
      · exact (Node.find?_without unread elsewhere).trans (congrArg _ there)
    have whole : ∀ passed ∈ Node.walkInto site.opens [] (.directory entries), passed.2.isDirectory = true →
        (site.place ++ passed.1 != place) = true := by
      intro passed member directory
      have stands := find?_of_mem_walk formed walked member
      refine bne_iff_ne.mpr fun same => ?_
      rw [same, unread] at stands
      rw [← Option.some.inj stands] at directory
      cases directory
    rw [walked, walked']
    exact congrArg Except.ok
      (@Node.files_walkInto_prune (fun names => site.place ++ names != place) site.opens [] (.directory entries) whole)

include formed unread in
theorem filesMatching_without (patterns : List String) : (site.without place).filesMatching patterns =
    (site.filesMatching patterns).map (·.filter (!site.standsAt place ·)) := by
  rw [filesMatching, filesMatching, walkFiles_without formed unread]
  cases PathPattern.parseAll patterns with
  | error e => rfl
  | ok compiled => exact bind_filter_map

theorem lists_of_filesMatching (formed : site.WellFormed) (unread : site.files.top.find? place = some (.file none))
    {patterns : List String} {files : List FoundFile} (matched : site.filesMatching patterns = .ok files) :
    site.Lists place files := by
  rw [filesMatching] at matched
  cases parsed : PathPattern.parseAll patterns with
  | error e => rw [parsed] at matched; cases matched
  | ok compiled =>
    rw [parsed] at matched
    exact Lists.of_bind_filter (fun _ => lists_of_walkFiles formed unread) matched

include unread in
/-- A path of names leads to a file as before unless that is gone. -/
theorem isFileAt_without (rooted : site.hasRoot = true) {names : List String} (nonempty : names ≠ [])
    (proper : ∀ name ∈ names, IsName name) :
    (site.without place).isFileAt (Path.ofSteps names) =
      (site.isFileAt (Path.ofSteps names) && site.place ++ names != place) := by
  have leads {goal : List String} (led : site.files.locate (site.locate (Path.ofSteps names)) = .ok goal) :
      goal = site.place ++ names := by
    rw [eq_foldl_turn_of_locate rooted (Path.isPlain_ofSteps nonempty proper).1 led, Path.pieces_ofSteps nonempty proper,
      Path.foldl_turn_of_isName proper]
  have named : place ≠ [] := by
    rintro rfl
    obtain ⟨entries, top⟩ := FileSystem.directoryAt_of_above List.nil_prefix (locate_root rooted).2
    rw [unread] at top
    cases top
  have finds (left : Node) : (site.without place).files.node? (site.locate (Path.ofSteps names)) = some left ↔ _ :=
    FileSystem.node?_without_eq_some_iff named unread
  rw [Bool.eq_iff_iff, Bool.and_eq_true, isFileAt, isFileAt, FileSystem.isFile, FileSystem.isFile, Option.any_eq_true,
    Option.any_eq_true, bne_iff_ne]
  constructor
  · rintro ⟨left, found, isFile⟩
    obtain ⟨goal, node, led, elsewhere, there, rfl⟩ := (finds left).mp found
    rw [leads led] at elsewhere
    exact ⟨⟨node, FileSystem.node?_eq_some_iff.mpr ⟨goal, led, there⟩, by rwa [Node.isFile, Node.isDirectory_prune] at isFile⟩,
      elsewhere⟩
  · rintro ⟨⟨node, found, isFile⟩, elsewhere⟩
    obtain ⟨goal, led, there⟩ := FileSystem.node?_eq_some_iff.mp found
    rw [← leads led] at elsewhere
    refine ⟨_, (finds _).mpr ⟨goal, node, led, elsewhere, there, rfl⟩, ?_⟩
    rwa [Node.isFile, Node.isDirectory_prune]

end Without

section First

variable {first : FoundFile} {rest : List FoundFile}

/-- The file at a place has no text, and the other files stand elsewhere, under other paths. -/
theorem Lists.of_standsAt (lists : site.Lists place (first :: rest)) (here : site.standsAt place first = true) :
    first.text = none ∧ rest.filter (!site.standsAt place ·) = rest ∧ ∀ other ∈ rest, other.path ≠ first.path := by
  have apart : ∀ other ∈ rest, other.names ≠ first.names := by
    intro other member same
    have fresh := (List.nodup_cons.mp lists.distinct).1
    exact fresh (same ▸ List.mem_map_of_mem member)
  refine ⟨lists.unread first List.mem_cons_self here, List.filter_eq_self.mpr fun other member => ?_,
    fun other member same => ?_⟩
  · rw [Bool.not_eq_true', standsAt, beq_eq_false_iff_ne]
    intro there
    have same : site.place ++ other.names = site.place ++ first.names := there.trans (eq_of_beq here).symm
    exact apart other member (List.append_cancel_left same)
  · have proper := (lists.named other (List.mem_cons_of_mem _ member)).2
    exact apart other member (Path.ofSteps_injective proper (lists.named first List.mem_cons_self).2 same)

end First

end Site

end Plumbline
