import Plumbline.Proofs.Check.FirstMatch

namespace Plumbline

/-- Two reports in which everything told shows what it is about are the same only if they tell the same about
everything. -/
theorem filterMap_eq_filterMap_iff {α β : Type} {f g : α → Option β} {items : List α}
    (told : ∀ a a' b, f a = some b → g a' = some b → a = a') :
    items.filterMap f = items.filterMap g ↔ ∀ a ∈ items, f a = g a := by
  refine ⟨fun same a member => Option.ext fun b => ⟨fun here => ?_, fun there => ?_⟩, List.filterMap_congr⟩
  · have listed : b ∈ items.filterMap f := List.mem_filterMap.mpr ⟨a, member, here⟩
    obtain ⟨a', _, there⟩ := List.mem_filterMap.mp (same ▸ listed)
    rwa [told a a' b here there]
  · have listed : b ∈ items.filterMap g := List.mem_filterMap.mpr ⟨a, member, there⟩
    obtain ⟨a', _, here⟩ := List.mem_filterMap.mp (same ▸ listed)
    rwa [← told a' a b here there]

namespace Site

theorem Lists.filter_eq_nil_iff {site : Site} {place : List String} {files : List FoundFile}
    (lists : site.Lists place files) : files.filter (!site.standsAt place ·) = [] ↔
      files = [] ∨ ∃ first, files = [first] ∧ site.standsAt place first = true := by
  cases files with
  | nil => simp
  | cons first rest =>
    by_cases here : site.standsAt place first = true
    · have others := (lists.of_standsAt here).2.1
      rw [List.filter_cons_of_neg (by simp [here]), others]
      simp [here]
    · rw [List.filter_cons_of_pos (by simp [here])]
      simp [here]

end Site

namespace Check

open Site

/-- A report on things one by one, or on that there are none. -/
def reportOf {α : Type} (missing : List Issue) (issue? : α → Option Issue) (items : List α) : List Issue :=
  if items.isEmpty then missing else items.filterMap issue?

theorem reportOf_of_ne_nil {α : Type} {missing : List Issue} {issue? : α → Option Issue} {items : List α}
    (some : items ≠ []) : reportOf missing issue? items = items.filterMap issue? := by
  rw [reportOf, if_neg (by simpa using some)]

/-- That some things are dropped shows in a report when something is told of one of them, or when nothing is left and this
is reported. -/
theorem reportOf_filter_iff {α : Type} {missing : List Issue} {issue? : α → Option Issue} {items : List α}
    {kept : α → Bool} (typed : ∀ issue ∈ missing, ∀ a, issue? a ≠ some issue) :
    reportOf missing issue? (items.filter kept) = reportOf missing issue? items ↔
      ¬ ((∃ a ∈ items, kept a = false ∧ issue? a ≠ none) ∨
        items ≠ [] ∧ (∀ a ∈ items, kept a = false) ∧ missing ≠ []) := by
  have unnoticed : (∀ a ∈ items, kept a = false → issue? a = none) ↔ ¬ ∃ a ∈ items, kept a = false ∧ issue? a ≠ none := by
    simp
  by_cases some : items = []
  · subst some
    exact iff_of_true rfl (by simp)
  rw [reportOf_of_ne_nil some, not_or, ← unnoticed, ← filterMap_filter_eq_iff]
  by_cases left : items.filter kept = []
  · have all : ∀ a ∈ items, kept a = false := by simpa using left
    have none : reportOf missing issue? [] = missing := rfl
    rw [left, none, List.filterMap_nil]
    cases missing with
    | nil => simp
    | cons issue missing =>
      refine iff_of_false (fun same => ?_) fun unnoticed => unnoticed.2 ⟨some, all, List.cons_ne_nil _ _⟩
      have told : issue ∈ items.filterMap issue? := same ▸ List.mem_cons_self
      obtain ⟨a, _, told⟩ := List.mem_filterMap.mp told
      exact typed issue List.mem_cons_self a told
  · rw [reportOf_of_ne_nil left]
    refine (and_iff_left ?_).symm
    rintro ⟨_, all, _⟩
    exact left (by simpa using all)

variable {site : Site} {place : List String}

namespace CiPipeline

def missing : Issue :=
  .make ".github/workflows/" "missing_ci_pipeline" "No CI workflow found" "A GitHub Actions workflow must be configured"
    "No workflow file" .medium

/-- What is reported of the texts of workflows. -/
def stepIssues (check : CiPipeline) (texts : List (String × List Char)) : List Issue :=
  match mainWorkflow? texts with
  | none => []
  | some (path, text) => check.steps.filterMap (stepIssue? path text)

/-- What is reported of the workflows. -/
def issues (check : CiPipeline) (workflows : List FoundFile) : List Issue :=
  if workflows.isEmpty then [missing]
  else check.stepIssues (workflows.filterMap fun file => file.text.map fun text => (file.path, Text.lower text.toList))

theorem run_eq (check : CiPipeline) (site : Site) :
    check.run site = site.filesMatching [workflowPattern] >>= fun workflows => pure (check.issues workflows) := by
  rw [run]
  congr 1
  funext workflows
  rw [issues, stepIssues]
  split
  · rfl
  · dsimp only
    generalize mainWorkflow? _ = main
    cases main <;> rfl

/-- An unreadable file shows in a check of workflows as the only one. -/
def Notices (site : Site) (place : List String) : Prop := site.Leads place workflowPattern []

theorem run_without_iff (check : CiPipeline) (formed : site.WellFormed)
    (unread : site.files.top.find? place = some (.file none)) :
    check.run (site.without place) = check.run site ↔ ¬ Notices site place := by
  have only : Notices site place ↔ ∃ workflows, site.filesMatching [workflowPattern] = .ok workflows ∧
      ∃ first, workflows = [first] ∧ site.standsAt place first = true := by
    constructor
    · rintro ⟨first, matched, here⟩
      exact ⟨[first], matched, first, rfl, here⟩
    · rintro ⟨_, matched, first, rfl, here⟩
      exact ⟨first, matched, here⟩
  rw [run_eq, run_eq, filesMatching_without formed unread, only]
  refine bind_map_eq_bind_iff fun workflows matched => ?_
  have lists := lists_of_filesMatching formed unread matched
  by_cases left : workflows.filter (!site.standsAt place ·) = []
  · rcases lists.filter_eq_nil_iff.mp left with rfl | ⟨first, rfl, here⟩
    · exact iff_of_true rfl (by simp)
    · have text := (lists.of_standsAt here).1
      have silent : check.issues [first] = [] := by
        rw [issues, if_neg (by simp), List.filterMap_cons_none (by rw [text]; rfl)]
        rfl
      have told : check.issues [] = [missing] := rfl
      rw [left, silent, told]
      exact iff_of_false (List.cons_ne_nil _ _) (not_not.mpr ⟨first, rfl, here⟩)
  · have some : workflows ≠ [] := by
      rintro rfl
      exact left rfl
    have same : check.issues (workflows.filter (!site.standsAt place ·)) = check.issues workflows := by
      rw [issues, issues, if_neg (by simpa using left), if_neg (by simpa using some),
        lists.filterMap_text fun file none => by rw [none]; rfl]
    refine iff_of_true same ?_
    rintro ⟨first, rfl, here⟩
    exact left (lists.filter_eq_nil_iff.mpr (.inr ⟨first, rfl, here⟩))

end CiPipeline

namespace ModuleDocstrings

variable (check : ModuleDocstrings)

def missing : List Issue :=
  let pattern := check.pattern
  (check.missingSeverity.map fun severity =>
    .make pattern "missing_file" s!"No {pattern} found" s!"{pattern} must exist" "File does not exist" severity).toList

/-- The files that are looked at. -/
def looksAt (site : Site) (files : List FoundFile) : List FoundFile :=
  files.filter fun file => !check.packagesOnly || isInPackage site file

theorem run_eq (site : Site) : check.run site = site.filesMatching [check.pattern] >>= fun files =>
    pure (reportOf check.missing (issue? check.severity) (check.looksAt site files)) := by
  rw [run]
  dsimp only
  congr 1
  funext files
  rw [reportOf, looksAt]
  split <;> rfl

/-- Whether a file is looked at no more without what stands at a place: it is that, or it is in a package no more. -/
def drops (site : Site) (place : List String) (file : FoundFile) : Bool :=
  site.standsAt place file || check.packagesOnly && site.place ++ (file.names.dropLast ++ ["__init__.py"]) == place

theorem looksAt_without (unread : site.files.top.find? place = some (.file none)) (rooted : site.hasRoot = true)
    {files : List FoundFile} (lists : site.Lists place files) :
    check.looksAt (site.without place) (files.filter (!site.standsAt place ·)) =
      (check.looksAt site files).filter (!check.drops site place ·) := by
  rw [looksAt, looksAt, List.filter_filter, List.filter_filter]
  refine List.filter_congr fun file member => ?_
  have proper : ∀ name ∈ file.names.dropLast ++ ["__init__.py"], IsName name := by
    intro name within
    rcases List.mem_append.mp within with above | last
    · exact (lists.named file member).2 name (List.dropLast_subset _ above)
    · rw [List.mem_singleton.mp last]
      decide
  have packaged : isInPackage (site.without place) file = _ := isFileAt_without unread rooted (by simp) proper
  rw [packaged, drops, isInPackage, bne]
  cases site.standsAt place file <;> cases check.packagesOnly <;> simp [Bool.and_comm]

/-- An unreadable file shows in a check of docstrings where something is reported of a file that is looked at no more
without it, or where there is none left then and one is required. -/
def Notices (site : Site) (place : List String) : Prop :=
  ∃ files, site.filesMatching [check.pattern] = .ok files ∧
    ((∃ file ∈ check.looksAt site files, check.drops site place file = true ∧ issue? check.severity file ≠ none) ∨
      check.looksAt site files ≠ [] ∧ (∀ file ∈ check.looksAt site files, check.drops site place file = true) ∧
        check.missingSeverity ≠ none)

theorem issueType_of_issue? {severity : Severity} {file : FoundFile} {issue : Issue}
    (told : issue? severity file = some issue) :
    issue.issueType = "empty_file" ∨ issue.issueType = "missing_docstring" := by
  rw [issue?] at told
  split at told
  · cases told
    exact .inl rfl
  · split at told
    · cases told
    · cases told
      exact .inr rfl

theorem run_without_iff (formed : site.WellFormed) (unread : site.files.top.find? place = some (.file none)) :
    check.run (site.without place) = check.run site ↔ ¬ check.Notices site place := by
  rw [run_eq, run_eq, filesMatching_without formed unread]
  refine bind_map_eq_bind_iff fun files matched => ?_
  have typed : ∀ issue ∈ check.missing, ∀ file, issue? check.severity file ≠ some issue := by
    intro issue member file told
    obtain ⟨severity, _, rfl⟩ := Option.map_eq_some_iff.mp (Option.mem_toList.mp member)
    rcases issueType_of_issue? told with empty | undocumented
    · exact absurd empty (by decide : "missing_file" ≠ "empty_file")
    · exact absurd undocumented (by decide : "missing_file" ≠ "missing_docstring")
  have required : check.missing ≠ [] ↔ check.missingSeverity ≠ none := by
    rw [missing]
    cases check.missingSeverity <;> simp
  have dropped (file : FoundFile) : (!check.drops site place file) = false ↔ check.drops site place file = true := by
    simp
  rw [check.looksAt_without unread (hasRoot_of_filesMatching matched) (lists_of_filesMatching formed unread matched),
    reportOf_filter_iff typed]
  simp only [dropped, required]

end ModuleDocstrings

namespace Migrations

/-- Whether a migration is one of an application. -/
def belongsTo (site : Site) (app : String) (file : FoundFile) : Bool := site.parentName? file.names.dropLast == some app

def missing (app : String) : Issue :=
  .make s!"{app}/migrations/" "missing_migrations" s!"Application {app} has no migrations"
    s!"{app}/migrations/ must contain at least one migration" "No migration files" .medium

theorem missing_injective : missing.Injective := by
  intro app app' same
  have paths : app ++ "/migrations/" = app' ++ "/migrations/" := congrArg Issue.filePath same
  simpa using paths

/-- The issue of an application without migrations. -/
def appIssue? (site : Site) (files : List FoundFile) (app : String) : Option Issue :=
  if files.any (belongsTo site app) then none else some (missing app)

theorem appIssue?_eq_some_iff {files : List FoundFile} {app : String} {issue : Issue} :
    appIssue? site files app = some issue ↔ files.any (belongsTo site app) = false ∧ missing app = issue := by
  rw [appIssue?]
  split
  · simp [*]
  · simp [*]

/-- What is reported of the texts of migrations. -/
def textIssues (check : Migrations) (texts : List (String × String)) : List Issue :=
  (check.operations.filterMap fun operation =>
    if texts.any fun (_, text) => Text.contains operation.toList text.toList then none
    else some (Issue.make "migrations/" "missing_migration_operation" s!"No migration performs {operation}"
      s!"A migration must contain migrations.{operation}" "Operation not found" .medium)) ++
    if check.requireReversible then texts.flatMap fun (path, text) => irreversibleIssues path text else []

theorem run_eq (check : Migrations) (site : Site) : check.run site = migrationFiles site >>= fun files =>
    pure (check.apps.filterMap (appIssue? site files) ++
      check.textIssues (files.filterMap fun file => file.text.map (file.path, ·))) := by
  rw [run]
  congr 1
  funext files
  exact congrArg pure (List.append_assoc ..)

section Without

variable (formed : site.WellFormed) (unread : site.files.top.find? place = some (.file none))

include formed unread

theorem migrationFiles_without :
    migrationFiles (site.without place) = (migrationFiles site).map (·.filter (!site.standsAt place ·)) := by
  rw [migrationFiles, migrationFiles, filesMatching_without formed unread]
  exact bind_filter_map

theorem lists_of_migrationFiles {files : List FoundFile} (found : migrationFiles site = .ok files) :
    site.Lists place files :=
  Lists.of_bind_filter (fun _ => lists_of_filesMatching formed unread) found

end Without

/-- An unreadable file shows in a check of migrations as the only one of an application. -/
def Notices (check : Migrations) (site : Site) (place : List String) : Prop :=
  ∃ files, migrationFiles site = .ok files ∧ ∃ app ∈ check.apps, files.any (belongsTo site app) = true ∧
    ∀ file ∈ files, belongsTo site app file = true → site.standsAt place file = true

theorem appIssue?_filter_eq_iff {files : List FoundFile} {app : String} :
    appIssue? (site.without place) (files.filter (!site.standsAt place ·)) app = appIssue? site files app ↔
      ¬ (files.any (belongsTo site app) = true ∧
        ∀ file ∈ files, belongsTo site app file = true → site.standsAt place file = true) := by
  have left : (files.filter (!site.standsAt place ·)).any (belongsTo (site.without place) app) = false ↔
      ∀ file ∈ files, belongsTo site app file = true → site.standsAt place file = true := by
    rw [List.any_eq_false]
    refine ⟨fun none file member belongs => ?_, fun all file member => ?_⟩
    · by_contra elsewhere
      exact none file (List.mem_filter.mpr ⟨member, by simp [elsewhere]⟩) belongs
    · obtain ⟨member, elsewhere⟩ := List.mem_filter.mp member
      exact fun belongs => absurd (all file member belongs) (by simpa using elsewhere)
  rw [← left, appIssue?, appIssue?]
  cases before : files.any (belongsTo site app) with
  | true => cases (files.filter (!site.standsAt place ·)).any (belongsTo (site.without place) app) <;> simp
  | false =>
    have none := left.mpr fun file member belongs => absurd belongs (List.any_eq_false.mp before file member)
    rw [none]
    simp

theorem run_without_iff (check : Migrations) (formed : site.WellFormed)
    (unread : site.files.top.find? place = some (.file none)) :
    check.run (site.without place) = check.run site ↔ ¬ check.Notices site place := by
  rw [run_eq, run_eq, migrationFiles_without formed unread]
  refine bind_map_eq_bind_iff fun files found => ?_
  have told : ∀ app app' issue, appIssue? (site.without place) (files.filter (!site.standsAt place ·)) app = some issue →
      appIssue? site files app' = some issue → app = app' := by
    intro app app' issue here there
    exact missing_injective ((appIssue?_eq_some_iff.mp here).2.trans (appIssue?_eq_some_iff.mp there).2.symm)
  rw [(lists_of_migrationFiles formed unread found).filterMap_text fun file none => by rw [none]; rfl,
    List.append_cancel_right_eq, filterMap_eq_filterMap_iff told]
  simp only [appIssue?_filter_eq_iff]
  simp

end Migrations

namespace ModuleCoupling

/-- Whether some source outside a place imports a module. -/
def isImported (files : List FoundFile) (place : List String) (module : String) : Bool :=
  ((files.filter fun file => !place.isPrefixOf file.names).filterMap (·.text)).any (Source.importsModule · module)

def missing (module : String) : Issue :=
  .make module "missing_module" s!"Module not found: {module}" s!"Module {module} must be implemented"
    "No package or module file" .high

def isolated (place : List String) (module : String) : Issue :=
  .make (Path.ofSteps place) "isolated_module" s!"Module {module} is never imported by other modules"
    s!"{module} must be integrated with the rest of the system" "No importers found" .medium

theorem moduleIssue?_of_not_located {files : List FoundFile} {module : String}
    (absent : locateModule? site files module = none) : moduleIssue? site files module = some (missing module) := by
  rw [moduleIssue?, absent]
  rfl

theorem moduleIssue?_of_located {files : List FoundFile} {module : String} {goal : List String}
    (located : locateModule? site files module = some goal) :
    moduleIssue? site files module = if isImported files goal module then none else some (isolated goal module) := by
  rw [moduleIssue?, located]
  rfl

theorem isolated_ne_missing {imported : Bool} {goal : List String} {module : String} :
    (if imported then none else some (isolated goal module)) ≠ some (missing module) := by
  cases imported with
  | true => exact nofun
  | false =>
    intro same
    have types : "isolated_module" = "missing_module" := congrArg Issue.issueType (Option.some.inj same)
    exact absurd types (by decide)

theorem eq_of_moduleIssue? {files : List FoundFile} {module : String} {issue : Issue}
    (told : moduleIssue? site files module = some issue) :
    issue = missing module ∨ ∃ goal, locateModule? site files module = some goal ∧ isImported files goal module = false ∧
      issue = isolated goal module := by
  cases located : locateModule? site files module with
  | none =>
    rw [moduleIssue?_of_not_located located] at told
    exact .inl (Option.some.inj told).symm
  | some goal =>
    rw [moduleIssue?_of_located located] at told
    split at told
    · cases told
    · rename_i unimported
      exact .inr ⟨goal, rfl, Bool.eq_false_iff.mpr unimported, (Option.some.inj told).symm⟩

/-- The issue of a module says which module it is about. -/
theorem moduleIssue?_told {files files' : List FoundFile} {module module' : String} {issue : Issue}
    (here : moduleIssue? site files module = some issue) (there : moduleIssue? site files' module' = some issue) :
    module = module' := by
  rcases eq_of_moduleIssue? here with rfl | ⟨goal, _, _, rfl⟩
  · rcases eq_of_moduleIssue? there with same | ⟨goal', _, _, same⟩
    · exact congrArg Issue.filePath same
    · have types : "missing_module" = "isolated_module" := congrArg Issue.issueType same
      exact absurd types (by decide)
  · rcases eq_of_moduleIssue? there with same | ⟨goal', _, _, same⟩
    · have types : "isolated_module" = "missing_module" := congrArg Issue.issueType same
      exact absurd types (by decide)
    · have expected : module ++ " must be integrated with the rest of the system" =
          module' ++ " must be integrated with the rest of the system" := congrArg Issue.expected same
      simpa using expected

theorem isName_of_locateModule? {files : List FoundFile} (lists : site.Lists place files) {module : String}
    {goal : List String} (located : locateModule? site files module = some goal) : ∀ name ∈ goal, IsName name := by
  obtain ⟨file, member, found⟩ := List.exists_of_findSome?_eq_some located
  have proper := (lists.named file member).2
  split at found
  · rw [← Option.some.inj found]
    exact fun name within => proper name (List.dropLast_subset _ within)
  · split at found
    · rwa [← Option.some.inj found]
    · cases found

/-- An unreadable file shows in a check of modules where one is found elsewhere without it, or nowhere, unless sources
outside both places import that module. -/
def Notices (check : ModuleCoupling) (site : Site) (place : List String) : Prop :=
  ∃ files, site.walkFiles = .ok files ∧ ∃ module ∈ check.modules,
    let sources := files.filter isPython
    let others := sources.filter (!site.standsAt place ·)
    locateModule? site others module ≠ locateModule? site sources module ∧
      ¬ ∃ goal goal', locateModule? site others module = some goal ∧ locateModule? site sources module = some goal' ∧
        isImported sources goal module = true ∧ isImported sources goal' module = true

theorem isImported_filter {files : List FoundFile} (lists : site.Lists place files) (goal : List String)
    (module : String) : isImported (files.filter (!site.standsAt place ·)) goal module = isImported files goal module := by
  rw [isImported, isImported, List.filter_comm, (lists.filter _).filterMap_text fun _ none => none]

theorem moduleIssue?_filter_eq_iff {files : List FoundFile} (lists : site.Lists place files) {module : String} :
    moduleIssue? site (files.filter (!site.standsAt place ·)) module = moduleIssue? site files module ↔
      ¬ (locateModule? site (files.filter (!site.standsAt place ·)) module ≠ locateModule? site files module ∧
        ¬ ∃ goal goal', locateModule? site (files.filter (!site.standsAt place ·)) module = some goal ∧
          locateModule? site files module = some goal' ∧ isImported files goal module = true ∧
            isImported files goal' module = true) := by
  cases there : locateModule? site files module with
  | none =>
    rw [moduleIssue?_of_not_located there]
    cases here : locateModule? site (files.filter (!site.standsAt place ·)) module with
    | none => exact iff_of_true (moduleIssue?_of_not_located here) (by simp)
    | some goal =>
      refine iff_of_false (fun same => ?_) (by simp)
      rw [moduleIssue?_of_located here] at same
      exact isolated_ne_missing same
  | some goal' =>
    rw [moduleIssue?_of_located there]
    cases here : locateModule? site (files.filter (!site.standsAt place ·)) module with
    | none =>
      refine iff_of_false (fun same => ?_) (by simp)
      rw [moduleIssue?_of_not_located here] at same
      exact isolated_ne_missing same.symm
    | some goal =>
      rw [moduleIssue?_of_located here, isImported_filter lists]
      by_cases moved : goal = goal'
      · subst moved
        exact iff_of_true rfl (by simp)
      · have differ : isolated goal module ≠ isolated goal' module := fun same =>
          moved (Path.ofSteps_injective (isName_of_locateModule? (lists.filter _) here)
            (isName_of_locateModule? lists there) (congrArg Issue.filePath same))
        have both : (∃ place place', some goal = some place ∧ some goal' = some place' ∧
            isImported files place module = true ∧ isImported files place' module = true) ↔
            isImported files goal module = true ∧ isImported files goal' module = true := by
          simp
        rw [both]
        cases isImported files goal module <;> cases isImported files goal' module <;> simp [moved, differ]

theorem run_without_iff (check : ModuleCoupling) (formed : site.WellFormed)
    (unread : site.files.top.find? place = some (.file none)) :
    check.run (site.without place) = check.run site ↔ ¬ check.Notices site place := by
  rw [run, run, walkFiles_without formed unread]
  refine bind_map_eq_bind_iff fun files walked => ?_
  have lists := (lists_of_walkFiles formed unread walked).filter isPython
  have told : ∀ module module' issue,
      moduleIssue? site ((files.filter isPython).filter (!site.standsAt place ·)) module = some issue →
        moduleIssue? site (files.filter isPython) module' = some issue → module = module' :=
    fun _ _ _ => moduleIssue?_told
  change check.modules.filterMap (moduleIssue? site ((files.filter _).filter isPython)) = _ ↔ _
  rw [List.filter_comm, filterMap_eq_filterMap_iff told]
  simp only [moduleIssue?_filter_eq_iff lists, not_exists, not_and]

end ModuleCoupling

end Check

end Plumbline
