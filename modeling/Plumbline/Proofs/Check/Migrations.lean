import Plumbline.Proofs.Check.Presence
import Plumbline.Proofs.Source.Scripts

namespace Plumbline

open Source

/-- What is kept of some things is the same under a second condition only if all that is kept meets it. -/
theorem map_filter_filter_eq_iff {α β : Type} {f : α → β} {p q : α → Bool} {items : List α} :
    ((items.filter p).filter q).map f = (items.filter p).map f ↔ ∀ a ∈ items, p a = true → q a = true := by
  have kept : (∀ a ∈ items, p a = true → q a = true) ↔ (items.filter p).filter q = items.filter p := by
    rw [List.filter_eq_self]
    simp only [List.mem_filter, and_imp]
  rw [kept]
  refine ⟨fun same => List.filter_sublist.eq_of_length ?_, congrArg (List.map f)⟩
  simpa using congrArg List.length same

instance : DecidablePred Call.IsMisread := fun call =>
  decidable_of_iff (call.reverses = false ∧ isReversible (String.ofList call.inside) = true) <| by
    rw [call.isReversible_iff]
    constructor
    · rintro ⟨stuck, undone | misread⟩
      · exact absurd undone (Bool.eq_false_iff.mp stuck)
      · exact misread
    · exact fun misread => ⟨misread.stuck, .inr misread⟩

namespace Check

/-- The issue of a call in a migration that cannot be undone. -/
def irreversible (path : String) (call : Call) : Issue :=
  let arguments := String.ofList (Text.trim call.inside)
  .make path "irreversible_migration" s!"{path}: RunPython without reverse_code"
    "RunPython(forward, reverse_code=backward)" s!"RunPython({arguments})" .high

/-- The calls of migrations, each with the path of the file it is in. -/
def callsOf (pages : List (String × Script)) : List (String × Call) :=
  pages.flatMap fun page => page.2.calls.map (page.1, ·)

theorem irreversibleIssues_text (path : String) (script : Script) : irreversibleIssues path script.text =
    ((script.calls.filter (!·.reverses)).filter fun call => !decide call.IsMisread).map (irreversible path) := by
  have kept (call : Call) : (!isReversible (String.ofList call.inside)) = (!decide call.IsMisread && !call.reverses) := by
    rw [← Bool.not_or, Bool.or_comm]
    refine congrArg not (Bool.eq_iff_iff.mpr ?_)
    rw [call.isReversible_iff, Bool.or_eq_true, decide_eq_true_iff]
  rw [irreversibleIssues, runCalls_text, List.filter_map, List.map_map, List.filter_filter]
  simp only [Function.comp_def, kept, String.toList_ofList]
  rfl

theorem flatMap_irreversibleIssues (pages : List (String × Script)) :
    (pages.flatMap fun page => irreversibleIssues page.1 page.2.text) =
      (((callsOf pages).filter (!·.2.reverses)).filter fun call => !decide call.2.IsMisread).map fun call =>
        irreversible call.1 call.2 := by
  rw [callsOf, List.filter_flatMap, List.filter_flatMap, List.map_flatMap]
  refine List.flatMap_congr fun page _ => ?_
  rw [irreversibleIssues_text, List.filter_map, List.filter_map, List.map_map]
  rfl

namespace Migrations

def isIrreversible (issue : Issue) : Bool := issue.issueType == "irreversible_migration"

theorem filter_textIssues {check : Migrations} (required : check.requireReversible = true)
    (texts : List (String × String)) : (check.textIssues texts).filter isIrreversible =
      texts.flatMap fun page => irreversibleIssues page.1 page.2 := by
  have others (f : String → Bool) : (check.operations.filterMap fun operation => if f operation then none
      else some (Issue.make "migrations/" "missing_migration_operation" s!"No migration performs {operation}"
        s!"A migration must contain migrations.{operation}" "Operation not found" .medium)).filter isIrreversible = [] := by
    rw [List.filter_eq_nil_iff]
    intro issue member
    obtain ⟨operation, _, told⟩ := List.mem_filterMap.mp member
    split at told
    · cases told
    · cases told
      exact Bool.not_eq_true _ ▸ (by decide : ("missing_migration_operation" == "irreversible_migration") = false)
  have calls : ∀ issue ∈ texts.flatMap fun page => irreversibleIssues page.1 page.2, isIrreversible issue = true := by
    intro issue member
    obtain ⟨page, _, told⟩ := List.mem_flatMap.mp member
    obtain ⟨call, _, rfl⟩ := List.mem_map.mp told
    exact beq_self_eq_true _
  rw [textIssues, List.filter_append, others, if_pos required, List.nil_append, List.filter_eq_self.mpr calls]

section Run

variable {check : Migrations} {site : Site} {files : List FoundFile} {pages : List (String × Script)}

/-- The calls that a run reports of migrations that are written as scripts. -/
theorem exists_run (required : check.requireReversible = true) (found : migrationFiles site = .ok files)
    (written : (files.filterMap fun file => file.text.map (file.path, ·)) =
      pages.map fun page => (page.1, page.2.text)) :
    ∃ issues, check.run site = .ok issues ∧ issues.filter isIrreversible =
      (((callsOf pages).filter (!·.2.reverses)).filter fun call => !decide call.2.IsMisread).map fun call =>
        irreversible call.1 call.2 := by
  have apps : (check.apps.filterMap (appIssue? site files)).filter isIrreversible = [] := by
    rw [List.filter_eq_nil_iff]
    intro issue member
    obtain ⟨app, _, told⟩ := List.mem_filterMap.mp member
    rw [← (appIssue?_eq_some_iff.mp told).2]
    exact Bool.not_eq_true _ ▸ (by decide : ("missing_migrations" == "irreversible_migration") = false)
  have run : check.run site = .ok (check.apps.filterMap (appIssue? site files) ++
      check.textIssues (pages.map fun page => (page.1, page.2.text))) := by
    rw [run_eq, found, ← written]
    rfl
  refine ⟨_, run, ?_⟩
  rw [List.filter_append, apps, List.nil_append, filter_textIssues required, List.flatMap_map,
    flatMap_irreversibleIssues]

end Run

/-- In migrations that are written as scripts, the calls are reported in order that do not say how to undo them, but for
those that are misread. -/
theorem run_reports_calls (check : Migrations) (required : check.requireReversible = true) {site : Site}
    {files : List FoundFile} (found : migrationFiles site = .ok files) {pages : List (String × Script)}
    (written : (files.filterMap fun file => file.text.map (file.path, ·)) =
      pages.map fun page => (page.1, page.2.text)) :
    ∃ issues, check.run site = .ok issues ∧
      issues.filter isIrreversible =
        (((callsOf pages).filter (!·.2.reverses)).filter fun call => !decide call.2.IsMisread).map (fun call =>
          irreversible call.1 call.2) ∧
      (issues.filter isIrreversible =
        ((callsOf pages).filter (!·.2.reverses)).map (fun call => irreversible call.1 call.2) ↔
          ∀ call ∈ callsOf pages, ¬ call.2.IsMisread) := by
  obtain ⟨issues, run, reported⟩ := exists_run required found written
  refine ⟨issues, run, reported, ?_⟩
  rw [reported, map_filter_filter_eq_iff]
  refine forall₂_congr fun call _ => ⟨fun each misread => ?_, fun none _ => by simpa using none⟩
  exact absurd misread (by simpa using each (by simpa using misread.stuck))

/-- A site with one migration. -/
def siteOf (script : Script) : Site :=
  ⟨⟨.directory [("loans", .directory [("migrations", .directory [("0001.py", .file (some script.text))])])], []⟩, "."⟩

theorem migrationFiles_siteOf (script : Script) : migrationFiles (siteOf script) =
    .ok [⟨["loans", "migrations", "0001.py"], some script.text⟩] := by
  have walked : (siteOf script).walkFiles = .ok [⟨["loans", "migrations", "0001.py"], some script.text⟩] := by
    have opened : ∀ names ∈ [[], ["loans"], ["loans", "migrations"]], (siteOf script).opens names = true :=
      Site.opens_of_dot rfl (by decide)
    simp only [List.forall_mem_cons] at opened
    rw [Site.walkFiles, Site.walk_dot_of_sorted rfl rfl rfl]
    simp [Node.walkInto, Node.walk, Node.isSkipped, Node.skippedNames, opened]
  have parsed : PathPattern.parseAll ["migrations/*.py"] =
      .ok [⟨["migrations".toList.map .literal, .many :: ".py".toList.map .literal]⟩] := by
    have parts : PathPattern.components "migrations/*.py" = ["migrations", "*.py"] := by decide +kernel
    have first : Glob.parse "migrations".toList = .ok ("migrations".toList.map .literal) :=
      Glob.parse_of_plain (by decide +kernel)
    have second : Glob.parse "*.py".toList = .ok (.many :: ".py".toList.map .literal) := by rfl
    exact mapM_eq_ok_of_forall₂ (.cons (PathPattern.parse_eq_ok parts
      (.cons ⟨first, by decide +kernel⟩ (.cons ⟨second, by decide +kernel⟩ .nil))) .nil)
  have matched : PathPattern.isMatch ⟨["migrations".toList.map .literal, .many :: ".py".toList.map .literal]⟩
      ["loans", "migrations", "0001.py"] = true := by decide +kernel
  rw [migrationFiles, Site.filesMatching, parsed, walked]
  change Except.ok (List.filter _ (List.filter _ _)) = _
  rw [List.filter_cons_of_pos (by rw [List.any_cons, matched]; rfl)]
  rfl

def strict : Migrations := ⟨[], [], true⟩

def seed : Argument := ⟨"seed".toList, isValue_word (by decide) (by decide), by decide⟩

def undo : Argument :=
  ⟨" undo".toList, .mark (by decide) (by decide) (by decide) (isValue_word (by decide) (by decide)), by decide⟩

def undoByName : Argument where
  text := reverseCode ++ '=' :: "undo".toList
  isValue := .word (by decide) (by decide) (by decide)
    (.mark (by decide) (by decide) (by decide) (isValue_word (by decide) (by decide)))
  stands := by decide

theorem not_infix_comma : ¬ runCall <:+: ", ".toList := by
  rw [← Text.contains_iff]
  decide

/-- Calls in a list of operations: one that cannot be undone, two that can, and one that cannot and is misread. -/
def sampleScript : Script where
  calls :=
    [⟨"operations = [".toList, [seed], false, [], by rw [← Text.contains_iff]; decide, .nil, rfl, nofun⟩,
      ⟨", ".toList, [seed, undo], false, [], not_infix_comma, .nil, rfl, nofun⟩,
      ⟨", ".toList, [seed, undoByName], true, [], not_infix_comma, .nil, rfl, fun _ => List.cons_ne_nil _ _⟩,
      ⟨", ".toList, [seed], true, [], not_infix_comma, .nil, rfl, fun _ => List.cons_ne_nil _ _⟩]
  tail := "]".toList
  ended := by rw [← Text.contains_iff]; decide

example : sampleScript.text =
    "operations = [RunPython(seed), RunPython(seed, undo), RunPython(seed,reverse_code=undo,), RunPython(seed,)]" := by
  decide +kernel

/-- What the file of a site with one migration gives to be read. -/
theorem written_siteOf (script : Script) :
    ([⟨["loans", "migrations", "0001.py"], some script.text⟩].filterMap fun file : FoundFile =>
      file.text.map (file.path, ·)) = [("loans/migrations/0001.py", script)].map fun page => (page.1, page.2.text) := by
  have path : FoundFile.path ⟨["loans", "migrations", "0001.py"], some script.text⟩ = "loans/migrations/0001.py" :=
    (by decide : Path.ofSteps ["loans", "migrations", "0001.py"] = "loans/migrations/0001.py")
  simp [path]

theorem run_reports_first_of_sampleScript : ∃ issues, strict.run (siteOf sampleScript) = .ok issues ∧
    (issues.filter isIrreversible).map (·.actual) = ["RunPython(seed)"] ∧
      issues.filter isIrreversible ≠ ((callsOf [("loans/migrations/0001.py", sampleScript)]).filter
        (!·.2.reverses)).map fun call => irreversible call.1 call.2 := by
  obtain ⟨issues, run, reported, complete⟩ :=
    strict.run_reports_calls rfl (migrationFiles_siteOf sampleScript) (written_siteOf sampleScript)
  refine ⟨issues, run, ?_, ?_⟩
  · rw [reported]
    decide +kernel
  · rw [ne_eq, complete]
    decide +kernel

/-- A call over several lines, with a comma behind its only argument. -/
def commaScript : Script where
  calls :=
    [{ lead := []
       arguments :=
        [⟨'\n' :: ' ' :: ' ' :: ' ' :: ' ' :: "forwards".toList,
          .mark (by decide) (by decide) (by decide) <| .mark (by decide) (by decide) (by decide) <|
            .mark (by decide) (by decide) (by decide) <| .mark (by decide) (by decide) (by decide) <|
              .mark (by decide) (by decide) (by decide) <| isValue_word (by decide) (by decide), by decide⟩]
       trailing := true
       gap := ['\n']
       introduced := by decide
       isValue := .mark (by decide) (by decide) (by decide) .nil
       isGap := by decide
       trails := fun _ => List.cons_ne_nil _ _ }]
  tail := ['\n']
  ended := by
    rw [← Text.contains_iff]
    decide

/-- The comma behind the last argument of a call is taken for a second one. -/
theorem trailing_comma_taken_for_reverse :
    ¬ ∀ (check : Migrations) (site : Site) (files : List FoundFile) (pages : List (String × Script)),
      check.requireReversible = true → migrationFiles site = .ok files →
      (files.filterMap fun file => file.text.map (file.path, ·)) = pages.map (fun page => (page.1, page.2.text)) →
      ∃ issues, check.run site = .ok issues ∧ issues.filter isIrreversible =
        ((callsOf pages).filter (!·.2.reverses)).map fun call => irreversible call.1 call.2 := by
  intro always
  obtain ⟨issues, run, all⟩ :=
    always strict (siteOf commaScript) _ _ rfl (migrationFiles_siteOf commaScript) (written_siteOf commaScript)
  obtain ⟨issues', run', reported⟩ := exists_run (rfl : strict.requireReversible = true)
    (migrationFiles_siteOf commaScript) (written_siteOf commaScript)
  cases run.symm.trans run'
  have counts := congrArg List.length (all.symm.trans reported)
  revert counts
  decide +kernel

end Migrations

end Check

end Plumbline
