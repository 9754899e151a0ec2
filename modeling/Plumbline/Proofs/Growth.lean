import Plumbline.Proofs.Check.Demands
import Plumbline.Proofs.Walks

namespace Plumbline

namespace Node

/-- All that is in a node is in another too, at the same places and unchanged. -/
def StaysIn (node larger : Node) : Prop :=
  ∀ place kind, (node.find? place).map Node.kind = some kind → (larger.find? place).map Node.kind = some kind

variable {node larger : Node}

theorem StaysIn.find? (stays : node.StaysIn larger) {place : List String} {found : Node}
    (there : node.find? place = some found) :
    ∃ found', larger.find? place = some found' ∧ found'.kind = found.kind := by
  have kept := stays place found.kind (by rw [there]; rfl)
  exact Option.map_eq_some_iff.mp kept

theorem eq_file_of_kind {text : Option String} (same : node.kind = (file text).kind) : node = .file text := by
  cases node with
  | file text' => rw [Kind.file.inj same]
  | directory entries => cases same

theorem exists_directory_of_kind {entries : List (String × Node)} (same : node.kind = (directory entries).kind) :
    ∃ entries', node = .directory entries' := by
  cases node with
  | file text => cases same
  | directory entries' => exact ⟨entries', rfl⟩

theorem isDirectory_eq_of_kind {other : Node} (same : node.kind = other.kind) : node.isDirectory = other.isDirectory := by
  cases node <;> cases other <;> first | rfl | cases same

/-- What is put where nothing was, and below no file, leaves everything as it was. -/
theorem staysIn_place {names : List String} (new : Node) (fresh : node.find? names = none)
    (open' : ∀ lead, lead <+: names → ∀ text, node.find? lead ≠ some (.file text)) :
    node.StaysIn (node.place names new) := by
  induction names generalizing node with
  | nil => cases fresh
  | cons name names ih =>
    cases node with
    | file text => exact absurd rfl (open' [] List.nil_prefix text)
    | directory entries =>
      intro place kind there
      rw [Node.place]
      cases place with
      | nil => exact there
      | cons other place =>
        simp only [Node.find?, child?] at there fresh open' ⊢
        by_cases same : other = name
        · subst same
          rw [NameMap.lookup_insertEntry_self]
          obtain ⟨found, leads, kinds⟩ := Option.map_eq_some_iff.mp there
          obtain ⟨child, atName, leads⟩ := Option.bind_eq_some_iff.mp leads
          have below (path : List String) : (directory entries).find? (other :: path) = child.find? path := by
            rw [Node.find?, child?, atName, Option.bind_some]
          rw [atName, Option.bind_some] at fresh
          rw [atName, Option.getD_some, Option.bind_some]
          refine ih fresh (fun lead before text => ?_) place kind (by rw [leads, ← kinds]; rfl)
          rw [← below]
          exact open' (other :: lead) ((List.prefix_cons_inj other).mpr before) text
        · rw [NameMap.lookup_insertEntry_of_ne same]
          exact there

end Node

namespace Site

/-- The second of two sites has all that the first has, and may have more. -/
structure Grows (a b : Site) : Prop where
  root : a.root = b.root
  working : a.files.working = b.files.working
  stays : a.files.top.StaysIn b.files.top

namespace Grows

variable {a b : Site} (grows : a.Grows b)

include grows

/-- A path that leads somewhere leads there still. -/
theorem locate_files {path : String} {goal : List String} (led : a.files.locate path = .ok goal) :
    b.files.locate path = .ok goal := by
  obtain ⟨usable, led⟩ := FileSystem.locate_eq_ok_iff.mp led
  have origin : a.files.origin path = b.files.origin path := by
    rw [FileSystem.origin, FileSystem.origin, grows.working]
  rw [origin] at led
  refine FileSystem.locate_eq_ok_iff.mpr ⟨usable, FileSystem.foldlM_step_transfer (fun visited _ node there => ?_) led⟩
  obtain ⟨node', there', same⟩ := grows.stays.find? there
  exact ⟨node', there', Node.isDirectory_eq_of_kind same⟩

theorem node? {path : String} {node : Node} (there : a.files.node? path = some node) :
    ∃ node', b.files.node? path = some node' ∧ node'.kind = node.kind := by
  obtain ⟨goal, led, found⟩ := FileSystem.node?_eq_some_iff.mp there
  obtain ⟨node', found', same⟩ := grows.stays.find? found
  exact ⟨node', FileSystem.node?_eq_some_iff.mpr ⟨goal, grows.locate_files led, found'⟩, same⟩

theorem isAt (sought : Check.Sought) {path : String} (there : sought.isAt a path = true) : sought.isAt b path = true := by
  obtain ⟨node, found, accepted⟩ := Check.Sought.isAt_iff.mp there
  obtain ⟨node', found', same⟩ := grows.node? found
  refine Check.Sought.isAt_iff.mpr ⟨node', ?_, ?_⟩
  · rwa [Site.locate, ← grows.root]
  · rwa [sought.accepts_congr (Node.isDirectory_eq_of_kind same)]

/-- The root is there still, with all that is below it. -/
theorem directory {entries : List (String × Node)} (there : a.files.node? a.root = some (.directory entries)) :
    ∃ entries', b.files.node? b.root = some (.directory entries') ∧
      (Node.directory entries).StaysIn (.directory entries') := by
  obtain ⟨goal, led, found⟩ := FileSystem.node?_eq_some_iff.mp there
  obtain ⟨node', found', same⟩ := grows.stays.find? found
  obtain ⟨entries', rfl⟩ := Node.exists_directory_of_kind same
  refine ⟨entries', ?_, fun place kind below => ?_⟩
  · rw [← grows.root]
    exact FileSystem.node?_eq_some_iff.mpr ⟨goal, grows.locate_files led, found'⟩
  · have kept := grows.stays (goal ++ place) kind
    rw [Node.find?_append, Node.find?_append, found, found'] at kept
    exact kept below

end Grows

end Site

theorem flatMap_subset {α β : Type} (f : α → List β) {fewer more : List α} (sub : fewer ⊆ more) :
    fewer.flatMap f ⊆ more.flatMap f := by
  intro found member
  obtain ⟨item, listed, held⟩ := List.mem_flatMap.mp member
  exact List.mem_flatMap.mpr ⟨item, sub listed, held⟩

section Widens

variable {ε α β : Type}

/-- Two requests fail alike, or the second gives all that the first does. -/
def Widens (x y : Except ε (List α)) : Prop :=
  (∃ e, x = .error e ∧ y = .error e) ∨ ∃ fewer more, x = .ok fewer ∧ y = .ok more ∧ fewer ⊆ more

theorem Widens.map {x y : Except ε (List α)} (widens : Widens x y) {f : List α → List β}
    (grows : ∀ fewer more, fewer ⊆ more → f fewer ⊆ f more) :
    Widens (x >>= fun found => pure (f found)) (y >>= fun found => pure (f found)) := by
  rcases widens with ⟨e, rfl, rfl⟩ | ⟨fewer, more, rfl, rfl, sub⟩
  · exact .inl ⟨e, rfl, rfl⟩
  · exact .inr ⟨f fewer, f more, rfl, rfl, grows fewer more sub⟩

/-- What is asked for first is the same for both. -/
theorem Widens.bind {x : Except ε α} {f g : α → Except ε (List β)} (each : ∀ a, Widens (f a) (g a)) :
    Widens (x >>= f) (x >>= g) := by
  cases x with
  | error e => exact .inl ⟨e, rfl, rfl⟩
  | ok a => exact each a

end Widens

namespace Site.Grows

variable {a b : Site} (grows : a.Grows b) (rooted : a.hasRoot = true) (formed : a.WellFormed) (formed' : b.WellFormed)

include grows rooted formed formed'

/-- A walk comes by all files that it came by before. -/
theorem walkFiles : ∃ files files', a.walkFiles = .ok files ∧ b.walkFiles = .ok files' ∧ files ⊆ files' := by
  obtain ⟨led, entries, found⟩ := locate_root rooted
  have there : a.files.node? a.root = some (.directory entries) := FileSystem.node?_eq_some_iff.mpr ⟨_, led, found⟩
  obtain ⟨entries', there', stays⟩ := grows.directory there
  have through := Node.walksThrough_walkInto (wellFormed_root formed there).listed a.opens
  have through' := Node.walksThrough_walkInto (wellFormed_root formed' there').listed b.opens
  refine ⟨_, _, walkFiles_of_directory there, walkFiles_of_directory there', fun ⟨names, text⟩ member => ?_⟩
  obtain ⟨leads, free, opened⟩ := (through.mem_files_iff names text).mp member
  obtain ⟨found', leads', same⟩ := stays.find? leads
  rw [Node.eq_file_of_kind same] at leads'
  rw [opens_eq_of_root_eq grows.root] at opened
  exact (through'.mem_files_iff names text).mpr ⟨leads', free, opened⟩

theorem filesMatching (patterns : List String) : Widens (a.filesMatching patterns) (b.filesMatching patterns) :=
  .bind fun _ => Widens.map (.inr (grows.walkFiles rooted formed formed')) fun _ _ => List.filter_subset _

theorem textsMatching (patterns : List String) : Widens (a.textsMatching patterns) (b.textsMatching patterns) :=
  (grows.filesMatching rooted formed formed' patterns).map fun _ _ => List.filterMap_subset _

theorem classesIn (patterns : List String) : Widens (Check.classesIn a patterns) (Check.classesIn b patterns) :=
  (grows.filesMatching rooted formed formed' patterns).map fun _ _ => flatMap_subset _

end Site.Grows

/-- What an issue is about and what it asks for, whatever was found instead. -/
def Issue.complaint (issue : Issue) : String × String × String := (issue.issueType, issue.filePath, issue.expected)

namespace Check

/-- Two runs fail alike, or the second makes no complaint that the first does not make. -/
def Relieves (x y : Except CheckError (List Issue)) : Prop :=
  (∃ e, x = .error e ∧ y = .error e) ∨ ∃ issues issues', x = .ok issues ∧ y = .ok issues' ∧
    (issues'.map Issue.complaint).Sublist (issues.map Issue.complaint)

/-- Each thing asked for is complained of again, or no longer. -/
theorem sublist_complaints {α : Type} {f f' : α → Option Issue} {items : List α}
    (eased : ∀ item ∈ items, f' item = none ∨ (f' item).map Issue.complaint = (f item).map Issue.complaint) :
    ((items.filterMap f').map Issue.complaint).Sublist ((items.filterMap f).map Issue.complaint) := by
  rw [List.map_filterMap, List.map_filterMap]
  induction items with
  | nil => exact .slnil
  | cons item items ih =>
    obtain ⟨here, eased⟩ := List.forall_mem_cons.mp eased
    rw [List.filterMap_cons, List.filterMap_cons]
    rcases here with gone | same
    · rw [gone, Option.map_none]
      cases (f item).map Issue.complaint with
      | none => exact ih eased
      | some _ => exact (ih eased).cons _
    · rw [same]
      cases (f item).map Issue.complaint with
      | none => exact ih eased
      | some _ => exact (ih eased).cons_cons _

theorem Relieves.of_widens {α β : Type} {x y : Except CheckError (List α)} (widens : Widens x y) {items : List β}
    {issue? : List α → β → Option Issue}
    (eased : ∀ fewer more, fewer ⊆ more → ∀ item ∈ items,
      issue? more item = none ∨ (issue? more item).map Issue.complaint = (issue? fewer item).map Issue.complaint) :
    Relieves (x >>= fun found => pure (items.filterMap (issue? found)))
      (y >>= fun found => pure (items.filterMap (issue? found))) := by
  rcases widens with ⟨e, rfl, rfl⟩ | ⟨fewer, more, rfl, rfl, sub⟩
  · exact .inl ⟨e, rfl, rfl⟩
  · exact .inr ⟨_, _, rfl, rfl, sublist_complaints (eased fewer more sub)⟩

/-- What is asked of any of the things found is met by more of them. -/
theorem any_of_subset {α : Type} {fewer more : List α} (sub : fewer ⊆ more) {p : α → Bool} (met : fewer.any p = true) :
    more.any p = true := by
  obtain ⟨found, member, holds⟩ := List.any_eq_true.mp met
  exact List.any_eq_true.mpr ⟨found, sub member, holds⟩

/-- What is complained of unless it is met is complained of again, or no longer. -/
theorem eased_of_met {met met' : Bool} {issue issue' : Issue} (kept : met = true → met' = true)
    (same : issue'.complaint = issue.complaint) :
    (if met' then none else some issue') = none ∨
      (if met' then none else some issue').map Issue.complaint = (if met then none else some issue).map Issue.complaint := by
  cases met' with
  | true => exact .inl rfl
  | false =>
    have unmet : met = false := Bool.eq_false_iff.mpr fun before => Bool.false_ne_true (kept before)
    rw [unmet]
    exact .inr (congrArg some same)

section Presence

variable {a b : Site} (grows : a.Grows b) (rooted : a.hasRoot = true)

include grows rooted in
theorem RequiredPaths.run_of_grows (check : RequiredPaths) : Relieves (check.run a) (check.run b) := by
  obtain ⟨_, entries, found⟩ := Site.locate_root rooted
  have there : a.files.node? a.root = some (.directory entries) := by rw [Site.node?_root rooted, found]
  obtain ⟨entries', there', _⟩ := grows.directory there
  have walked := Site.walk_of_directory there
  have walked' := Site.walk_of_directory there'
  refine .inr ⟨check.paths.filterMap (issue? a), check.paths.filterMap (issue? b), ?_, ?_, ?_⟩
  · rw [run, walked]
    rfl
  · rw [run, walked']
    rfl
  refine sublist_complaints fun path _ => ?_
  rw [issue?, issue?]
  by_cases slash : path.toList.getLast? = some '/'
  · rw [if_pos slash, if_pos slash]
    exact eased_of_met (grows.isAt .directory) rfl
  · rw [if_neg slash, if_neg slash]
    exact eased_of_met (grows.isAt .anything) rfl

variable (formed : a.WellFormed) (formed' : b.WellFormed)

include grows rooted formed formed'

theorem FilePatterns.run_of_grows (check : FilePatterns) : Relieves (check.run a) (check.run b) := by
  obtain ⟨files, files', walked, walked', sub⟩ := grows.walkFiles rooted formed formed'
  rw [run, run]
  cases PathPattern.parseAll check.patterns with
  | error e => exact .inl ⟨e, rfl, rfl⟩
  | ok compiled =>
    rw [walked, walked']
    exact .inr ⟨_, _, rfl, rfl, sublist_complaints fun _ _ => eased_of_met (any_of_subset sub) rfl⟩

theorem TextPresent.run_of_grows (check : TextPresent) : Relieves (check.run a) (check.run b) :=
  .of_widens (grows.textsMatching rooted formed formed' check.files) fun _ _ sub _ _ =>
    eased_of_met (any_of_subset sub) rfl

theorem DefinitionsPresent.run_of_grows (check : DefinitionsPresent) : Relieves (check.run a) (check.run b) :=
  .of_widens (grows.textsMatching rooted formed formed' check.files) fun _ _ sub _ _ =>
    eased_of_met (any_of_subset sub) rfl

theorem ModelClasses.run_of_grows (check : ModelClasses) : Relieves (check.run a) (check.run b) := by
  refine .of_widens (grows.classesIn rooted formed formed' check.files) fun fewer more sub model _ => ?_
  refine eased_of_met (fun met => ?_) rfl
  rw [findClass?, List.find?_isSome] at met ⊢
  obtain ⟨found, member, named⟩ := met
  exact ⟨found, sub member, named⟩

end Presence

end Check

namespace CheckSpec

/-- Checks that ask for some things to be there, wherever it is that they are found. -/
def IsPresence : CheckSpec → Prop
  | requiredPaths _ | filePatterns _ | textPresent _ | definitionsPresent _ | modelClasses _ => True
  | _ => False

variable {a b : Site}

/-- What is added to a site breaks no check for the presence of something: the check fails as it did before, or complains
of nothing that it did not complain of before, and of nothing at all where it did not complain. -/
theorem relieved_of_grows {check : CheckSpec} (presence : check.IsPresence) (grows : a.Grows b) (formed : a.WellFormed)
    (formed' : b.WellFormed) (rooted : a.hasRoot = true) :
    (∃ e, check.run a = .error e ∧ check.run b = .error e) ∨
      ∃ issues issues', check.run a = .ok issues ∧ check.run b = .ok issues' ∧
        (issues'.map Issue.complaint).Sublist (issues.map Issue.complaint) ∧ (issues = [] → issues' = []) := by
  have relieves : Check.Relieves (check.run a) (check.run b) := by
    cases check with
    | requiredPaths check => exact check.run_of_grows grows rooted
    | filePatterns check => exact check.run_of_grows grows rooted formed formed'
    | textPresent check => exact check.run_of_grows grows rooted formed formed'
    | definitionsPresent check => exact check.run_of_grows grows rooted formed formed'
    | modelClasses check => exact check.run_of_grows grows rooted formed formed'
    | _ => cases presence
  rcases relieves with failed | ⟨issues, issues', ran, ran', sub⟩
  · exact .inl failed
  · refine .inr ⟨issues, issues', ran, ran', sub, ?_⟩
    rintro rfl
    exact List.map_eq_nil_iff.mp (List.sublist_nil.mp sub)

/-- A directory with one page in it. -/
def onePage : Site := ⟨⟨.directory [("docs", .directory [("a.md", .file (some "A"))])], []⟩, "."⟩

/-- The same with one page more. -/
def twoPages : Site := { onePage with files := onePage.files.withNode ["docs", "b.md"] (.file (some "B")) }

theorem onePage_grows : onePage.Grows twoPages := by
  refine ⟨rfl, rfl, Node.staysIn_place _ rfl fun lead before text => ?_⟩
  simp only [List.prefix_cons_iff, List.prefix_nil] at before
  obtain rfl | ⟨_, rfl, rfl | ⟨_, rfl, rfl⟩⟩ := before <;> exact nofun

theorem relieved_of_onePage_grows : ∃ issues issues',
    run (.requiredPaths ⟨["docs/", "docs/b.md", "c.md"]⟩) onePage = .ok issues ∧
    run (.requiredPaths ⟨["docs/", "docs/b.md", "c.md"]⟩) twoPages = .ok issues' ∧
    (issues'.map Issue.complaint).Sublist (issues.map Issue.complaint) := by
  have page (text : String) : (Node.file (some text)).WellFormed := .file _
  have docs : (Node.directory [("a.md", .file (some "A"))]).WellFormed :=
    .directory (List.pairwise_singleton ..) (by decide) (List.forall_mem_singleton.mpr (page "A"))
  have formed : onePage.WellFormed :=
    .directory (List.pairwise_singleton ..) (by decide) (List.forall_mem_singleton.mpr docs)
  have formed' : twoPages.WellFormed := formed.place (page "B") (by decide)
  have there : onePage.files.node? onePage.root = some onePage.files.top := FileSystem.node?_dot rfl
  have rooted : onePage.hasRoot = true := by
    rw [Site.hasRoot, FileSystem.isDirectory, there]
    rfl
  have presence : (CheckSpec.requiredPaths ⟨["docs/", "docs/b.md", "c.md"]⟩).IsPresence := trivial
  rcases relieved_of_grows presence onePage_grows formed formed' rooted with
    ⟨e, failed, _⟩ | ⟨issues, issues', ran, ran', fewer, _⟩
  · rw [run, Check.RequiredPaths.run, Site.walk_of_directory there] at failed
    cases failed
  · exact ⟨issues, issues', ran, ran', fewer⟩

end CheckSpec

end Plumbline
