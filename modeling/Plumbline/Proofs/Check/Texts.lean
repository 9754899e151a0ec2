import Plumbline.Proofs.Removal

namespace Plumbline

section Dropped

variable {α β : Type} {kept : α → Bool} {items : List α}

theorem filterMap_filter_of_dropped {f : α → Option β} (dropped : ∀ a ∈ items, kept a = false → f a = none) :
    (items.filter kept).filterMap f = items.filterMap f := by
  rw [List.filterMap_filter]
  refine List.filterMap_congr fun a member => ?_
  by_cases stays : kept a = true
  · rw [if_pos stays]
  · rw [if_neg stays, dropped a member (Bool.eq_false_iff.mpr stays)]

theorem filterMap_filter_eq_iff {f : α → Option β} :
    (items.filter kept).filterMap f = items.filterMap f ↔ ∀ a ∈ items, kept a = false → f a = none := by
  refine ⟨fun same => ?_, filterMap_filter_of_dropped⟩
  induction items with
  | nil => exact List.forall_mem_nil _
  | cons a rest ih =>
    rw [List.forall_mem_cons]
    cases stays : kept a with
    | true =>
      rw [List.filter_cons_of_pos stays, List.filterMap_cons, List.filterMap_cons] at same
      refine ⟨nofun, ih ?_⟩
      cases told : f a <;> simpa [told] using same
    | false =>
      rw [List.filter_cons_of_neg (by simp [stays])] at same
      have fewer : ((rest.filter kept).filterMap f).length ≤ (rest.filterMap f).length :=
        (List.filter_sublist.filterMap f).length_le
      cases told : f a with
      | none =>
        rw [List.filterMap_cons_none told] at same
        exact ⟨fun _ => rfl, ih same⟩
      | some b =>
        rw [same, List.filterMap_cons_some told, List.length_cons] at fewer
        exact absurd fewer (Nat.not_succ_le_self _)

theorem filter_filter_of_dropped {p : α → Bool} (dropped : ∀ a ∈ items, kept a = false → p a = false) :
    (items.filter kept).filter p = items.filter p := by
  rw [List.filter_filter]
  refine List.filter_congr fun a member => ?_
  cases stays : kept a with
  | true => exact Bool.and_true _
  | false => rw [dropped a member stays, Bool.false_and]

theorem flatMap_filter_of_dropped {f : α → List β} (dropped : ∀ a ∈ items, kept a = false → f a = []) :
    (items.filter kept).flatMap f = items.flatMap f := by
  induction items with
  | nil => rfl
  | cons a rest ih =>
    obtain ⟨here, later⟩ := List.forall_mem_cons.mp dropped
    rw [List.flatMap_cons, ← ih later, List.filter_cons]
    split
    · rw [List.flatMap_cons]
    · rename_i drops
      rw [here (Bool.eq_false_iff.mpr drops), List.nil_append]

end Dropped

namespace Site

variable {site : Site} {place : List String} {α : Type}

theorem Lists.text_of_dropped {files : List FoundFile} (lists : site.Lists place files) {file : FoundFile}
    (member : file ∈ files) (dropped : (!site.standsAt place file) = false) : file.text = none :=
  lists.unread file member (by simpa using dropped)

/-- What is read of files in which the one at the place is left out. -/
theorem Lists.filterMap_text {files : List FoundFile} (lists : site.Lists place files) {f : FoundFile → Option α}
    (silent : ∀ file, file.text = none → f file = none) :
    (files.filter (!site.standsAt place ·)).filterMap f = files.filterMap f :=
  filterMap_filter_of_dropped fun file member here => silent file (lists.text_of_dropped member here)

variable (formed : site.WellFormed) (unread : site.files.top.find? place = some (.file none))

include formed unread in
theorem bind_walkFiles_without {f g : List FoundFile → Except CheckError α}
    (same : ∀ files, site.Lists place files → f (files.filter (!site.standsAt place ·)) = g files) :
    (site.without place).walkFiles >>= f = site.walkFiles >>= g := by
  rw [walkFiles_without formed unread]
  exact bind_map_eq_bind fun files walked => same files (lists_of_walkFiles formed unread walked)

include formed unread in
theorem bind_filesMatching_without {patterns : List String} {f g : List FoundFile → Except CheckError α}
    (same : ∀ files, site.Lists place files → f (files.filter (!site.standsAt place ·)) = g files) :
    (site.without place).filesMatching patterns >>= f = site.filesMatching patterns >>= g := by
  rw [filesMatching_without formed unread]
  exact bind_map_eq_bind fun files matched => same files (lists_of_filesMatching formed unread matched)

include formed unread in
theorem textsMatching_without (patterns : List String) :
    (site.without place).textsMatching patterns = site.textsMatching patterns :=
  bind_filesMatching_without formed unread fun _ lists =>
    congrArg Except.ok (lists.filterMap_text fun _ none => none)

end Site

namespace Check

open Site

variable {site : Site} {place : List String} (formed : site.WellFormed)
  (unread : site.files.top.find? place = some (.file none))

include formed unread

theorem TextPresent.run_without (check : TextPresent) : check.run (site.without place) = check.run site := by
  rw [run, run, textsMatching_without formed unread]

theorem DefinitionsPresent.run_without (check : DefinitionsPresent) :
    check.run (site.without place) = check.run site := by
  rw [run, run, textsMatching_without formed unread]

theorem classesIn_without (patterns : List String) : classesIn (site.without place) patterns = classesIn site patterns :=
  bind_filesMatching_without formed unread fun files lists => congrArg Except.ok
    (flatMap_filter_of_dropped fun file member here => by
      rw [lists.text_of_dropped member here])

theorem ModelClasses.run_without (check : ModelClasses) : check.run (site.without place) = check.run site := by
  rw [run, run, classesIn_without formed unread]

theorem ModelFields.run_without (check : ModelFields) : check.run (site.without place) = check.run site := by
  rw [run, run, classesIn_without formed unread]

theorem ModelRelationships.run_without (check : ModelRelationships) :
    check.run (site.without place) = check.run site := by
  rw [run, run, classesIn_without formed unread]

theorem TenantBaseModel.run_without (check : TenantBaseModel) : check.run (site.without place) = check.run site := by
  rw [run, run, classesIn_without formed unread]

theorem DeclaredDependencies.run_without (check : DeclaredDependencies) :
    check.run (site.without place) = check.run site :=
  bind_filesMatching_without formed unread fun files lists => by
    rw [lists.filterMap_text fun file none => by rw [none]; rfl]

theorem testFiles_without : testFiles (site.without place) = (testFiles site).map (·.filter (!site.standsAt place ·)) := by
  rw [testFiles, testFiles, walkFiles_without formed unread]
  exact bind_filter_map

theorem lists_of_testFiles {files : List FoundFile} (found : testFiles site = .ok files) : site.Lists place files :=
  Lists.of_bind_filter (fun _ => lists_of_walkFiles formed unread) found

theorem bind_testFiles_without {f g : List FoundFile → Except CheckError (List Issue)}
    (same : ∀ files, site.Lists place files → f (files.filter (!site.standsAt place ·)) = g files) :
    testFiles (site.without place) >>= f = testFiles site >>= g := by
  rw [testFiles_without formed unread]
  exact bind_map_eq_bind fun files found => same files (lists_of_testFiles formed unread found)

theorem TestCoverage.run_without (check : TestCoverage) : check.run (site.without place) = check.run site :=
  bind_testFiles_without formed unread fun files lists => by
    rw [lists.filterMap_text fun file none => by rw [none]; rfl]

theorem IntegrationTests.run_without (check : IntegrationTests) : check.run (site.without place) = check.run site :=
  bind_testFiles_without formed unread fun files lists => by
    rw [List.filter_comm]
    dsimp only
    rw [(lists.filter _).filterMap_text fun _ none => none]

theorem DeprecationMarkers.run_without (check : DeprecationMarkers) :
    check.run (site.without place) = check.run site :=
  bind_walkFiles_without formed unread fun files lists => by
    rw [List.filter_comm]
    dsimp only
    rw [(lists.filter _).filterMap_text fun file none => by rw [none]; rfl]

theorem RefactoredComponents.run_without (check : RefactoredComponents) :
    check.run (site.without place) = check.run site :=
  bind_walkFiles_without formed unread fun files lists => by
    have same : ((files.filter (!site.standsAt place ·)).filter fun file => isPython file && file.text.isSome) =
        files.filter fun file => isPython file && file.text.isSome :=
      filter_filter_of_dropped fun file member here => by
        rw [lists.text_of_dropped member here]
        exact Bool.and_false _
    rw [same]
    rfl

theorem docstringRatio?_without : docstringRatio? (site.without place) = docstringRatio? site :=
  bind_walkFiles_without formed unread fun files lists => by
    rw [List.filter_comm]
    dsimp only
    rw [(lists.filter _).filterMap_text fun _ none => none]

end Check

end Plumbline
