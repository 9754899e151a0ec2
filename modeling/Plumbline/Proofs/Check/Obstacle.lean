import Plumbline.Check
import Plumbline.Proofs.Pattern

namespace Plumbline

namespace Site

/-- Whether the root that checks run against is a directory. -/
def hasRoot (site : Site) : Bool := site.files.isDirectory site.root

/-- What stops a look at the files that match some patterns: the first of these that does not compile, or else a root
that is no directory. -/
def obstacle? (site : Site) (patterns : List String) : Option CheckError :=
  (patterns.findSome? PathPattern.fault?).or (if site.hasRoot then none else some (.rootMissing site.root))

variable (site : Site)

theorem failure?_walk : failure? site.walk = site.obstacle? [] := by
  rw [walk, obstacle?, List.findSome?_nil, Option.none_or]
  split
  · rename_i found
    have rooted : site.hasRoot = true := by simp [hasRoot, FileSystem.isDirectory, found, Node.isDirectory]
    rw [if_pos rooted]
    rfl
  · rename_i elsewhere
    have rootless : ¬ site.hasRoot = true := by
      rcases found : site.files.node? site.root with _ | _ | entries
      · simp [hasRoot, FileSystem.isDirectory, found]
      · simp [hasRoot, FileSystem.isDirectory, found, Node.isDirectory]
      · exact absurd found (elsewhere entries)
    rw [if_neg rootless]
    rfl

theorem failure?_walkFiles : failure? site.walkFiles = site.obstacle? [] :=
  (failure?_bind_of_total fun _ => rfl).trans site.failure?_walk

theorem failure?_walkDirectories : failure? site.walkDirectories = site.obstacle? [] :=
  (failure?_bind_of_total fun _ => rfl).trans site.failure?_walk

theorem failure?_filesMatching (patterns : List String) :
    failure? (site.filesMatching patterns) = site.obstacle? patterns :=
  calc failure? (site.filesMatching patterns)
      = (failure? (PathPattern.parseAll patterns)).or (site.obstacle? []) :=
        failure?_bind fun _ => (failure?_bind_of_total fun _ => rfl).trans site.failure?_walkFiles
    _ = site.obstacle? patterns := by
        rw [PathPattern.parseAll, failure?_mapM]
        rfl

theorem failure?_findFile? (pattern : String) : failure? (site.findFile? pattern) = site.obstacle? [pattern] :=
  (failure?_bind_of_total fun _ => rfl).trans (site.failure?_filesMatching [pattern])

theorem failure?_textsMatching (patterns : List String) :
    failure? (site.textsMatching patterns) = site.obstacle? patterns :=
  (failure?_bind_of_total fun _ => rfl).trans (site.failure?_filesMatching patterns)

/-- A root that was asked for by way of patterns is not missed again later. -/
theorem obstacle?_or_walk (patterns : List String) :
    (site.obstacle? patterns).or (site.obstacle? []) = site.obstacle? patterns := by
  simp only [obstacle?, List.findSome?_nil, Option.none_or, Option.or_assoc, Option.or_self]

/-- Patterns that compile stop nothing. -/
theorem obstacle?_of_compiles {patterns : List String} (compiles : patterns.findSome? PathPattern.fault? = none) :
    site.obstacle? patterns = site.obstacle? [] := by
  rw [obstacle?, compiles]
  rfl

end Site

namespace Check

variable (site : Site)

theorem RequiredPaths.failure?_run (check : RequiredPaths) : failure? (check.run site) = site.obstacle? [] :=
  (failure?_bind_of_total fun _ => rfl).trans site.failure?_walk

theorem FilePatterns.failure?_run (check : FilePatterns) :
    failure? (check.run site) = site.obstacle? check.patterns :=
  calc failure? (check.run site)
      = (failure? (PathPattern.parseAll check.patterns)).or (site.obstacle? []) :=
        failure?_bind fun _ => (failure?_bind_of_total fun _ => rfl).trans site.failure?_walkFiles
    _ = site.obstacle? check.patterns := by
        rw [PathPattern.parseAll, failure?_mapM]
        rfl

theorem failure?_packageDirectories (app : String) : failure? (packageDirectories site app) = site.obstacle? [] :=
  (failure?_bind_of_total fun _ => rfl).trans site.failure?_walkDirectories

/-- What is done for each item of a list and breaks off alike for all breaks off if there is an item. -/
theorem failure?_mapM_of_alike {α β ε : Type} {f : α → Except ε β} {xs : List α} {each : Option ε}
    (alike : ∀ a, failure? (f a) = each) : failure? (xs.mapM f) = if xs.isEmpty then none else each := by
  rw [failure?_mapM]
  cases xs with
  | nil => rfl
  | cons a xs =>
    simp only [List.findSome?_cons, alike, List.isEmpty_cons, Bool.false_eq_true, if_false]
    cases each with
    | none => simp
    | some e => rfl

theorem AppStructure.failure?_run (check : AppStructure) :
    failure? (check.run site) = if check.apps.isEmpty then none else site.obstacle? [] := by
  have alike (app : String) : failure? (check.issuesOf site app) = site.obstacle? [] := by
    refine (failure?_bind_of_total fun packages => ?_).trans (failure?_packageDirectories site app)
    cases packages <;> rfl
  exact (failure?_bind_of_total fun _ => rfl).trans (failure?_mapM_of_alike alike)

theorem TestLayout.failure?_run (check : TestLayout) :
    failure? (check.run site) = if check.apps.isEmpty then none else site.obstacle? [] := by
  have alike (app : String) : failure? (check.issuesOf site app) = site.obstacle? [] := by
    refine (failure?_bind_of_total fun packages => ?_).trans (failure?_packageDirectories site app)
    cases packages with
    | nil => rfl
    | cons names _ =>
      dsimp only
      split <;> rfl
  exact (failure?_bind_of_total fun _ => rfl).trans (failure?_mapM_of_alike alike)

theorem failure?_classesIn (patterns : List String) : failure? (classesIn site patterns) = site.obstacle? patterns :=
  (failure?_bind_of_total fun _ => rfl).trans (site.failure?_filesMatching patterns)

theorem failure?_testFiles : failure? (testFiles site) = site.obstacle? [] :=
  (failure?_bind_of_total fun _ => rfl).trans site.failure?_walkFiles

/-- The one pattern of a check for workflows compiles. -/
theorem fault?_workflowPattern : PathPattern.fault? workflowPattern = none := by decide +kernel

theorem CiPipeline.failure?_run (check : CiPipeline) : failure? (check.run site) = site.obstacle? [] := by
  have compiles : [workflowPattern].findSome? PathPattern.fault? = none := by
    rw [List.findSome?_cons, fault?_workflowPattern, List.findSome?_nil]
  rw [← site.obstacle?_of_compiles compiles]
  refine (failure?_bind_of_total fun workflows => ?_).trans (site.failure?_filesMatching [workflowPattern])
  dsimp only
  split
  · rfl
  · split <;> rfl

theorem FileContent.failure?_run (check : FileContent) : failure? (check.run site) = site.obstacle? [check.file] :=
  (failure?_bind_of_total fun found => by cases found <;> rfl).trans (site.failure?_findFile? check.file)

theorem TextPresent.failure?_run (check : TextPresent) : failure? (check.run site) = site.obstacle? check.files :=
  (failure?_bind_of_total fun _ => rfl).trans (site.failure?_textsMatching check.files)

theorem ModuleDocstrings.failure?_run (check : ModuleDocstrings) : failure? (check.run site) = site.obstacle? [check.pattern] :=
  (failure?_bind_of_total fun _ => by dsimp only; split <;> rfl).trans (site.failure?_filesMatching [check.pattern])

theorem ReadmeSections.failure?_run (check : ReadmeSections) : failure? (check.run site) = site.obstacle? [check.file] :=
  (failure?_bind_of_total fun found => by cases found <;> rfl).trans (site.failure?_findFile? check.file)

theorem ModelClasses.failure?_run (check : ModelClasses) : failure? (check.run site) = site.obstacle? check.files :=
  (failure?_bind_of_total fun _ => rfl).trans (failure?_classesIn site check.files)

theorem ModelFields.failure?_run (check : ModelFields) : failure? (check.run site) = site.obstacle? check.files :=
  (failure?_bind_of_total fun _ => by dsimp only; split <;> rfl).trans (failure?_classesIn site check.files)

theorem ModelRelationships.failure?_run (check : ModelRelationships) : failure? (check.run site) = site.obstacle? check.files :=
  (failure?_bind_of_total fun _ => rfl).trans (failure?_classesIn site check.files)

theorem TenantBaseModel.failure?_run (check : TenantBaseModel) : failure? (check.run site) = site.obstacle? check.files :=
  (failure?_bind_of_total fun _ => rfl).trans (failure?_classesIn site check.files)

/-- The one pattern of a check for migrations compiles. -/
theorem fault?_migrations : PathPattern.fault? "migrations/*.py" = none := by decide +kernel

theorem failure?_migrationFiles : failure? (migrationFiles site) = site.obstacle? [] := by
  have compiles : ["migrations/*.py"].findSome? PathPattern.fault? = none := by
    rw [List.findSome?_cons, fault?_migrations, List.findSome?_nil]
  rw [← site.obstacle?_of_compiles compiles]
  exact (failure?_bind_of_total fun _ => rfl).trans (site.failure?_filesMatching ["migrations/*.py"])

theorem Migrations.failure?_run (check : Migrations) : failure? (check.run site) = site.obstacle? [] :=
  (failure?_bind_of_total fun _ => rfl).trans (failure?_migrationFiles site)

theorem DeclaredDependencies.failure?_run (check : DeclaredDependencies) : failure? (check.run site) = site.obstacle? check.manifests :=
  (failure?_bind_of_total fun _ => by dsimp only; split <;> rfl).trans (site.failure?_filesMatching check.manifests)

theorem ModuleCoupling.failure?_run (check : ModuleCoupling) : failure? (check.run site) = site.obstacle? [] :=
  (failure?_bind_of_total fun _ => rfl).trans site.failure?_walkFiles

theorem DefinitionsPresent.failure?_run (check : DefinitionsPresent) : failure? (check.run site) = site.obstacle? check.files :=
  (failure?_bind_of_total fun _ => rfl).trans (site.failure?_textsMatching check.files)

theorem TestCoverage.failure?_run (check : TestCoverage) : failure? (check.run site) = site.obstacle? [] :=
  (failure?_bind_of_total fun _ => rfl).trans (failure?_testFiles site)

theorem IntegrationTests.failure?_run (check : IntegrationTests) : failure? (check.run site) = site.obstacle? [] :=
  (failure?_bind_of_total fun _ => by dsimp only; split <;> rfl).trans (failure?_testFiles site)

theorem BreakingChanges.failure?_run (check : BreakingChanges) : failure? (check.run site) = site.obstacle? [check.changelog] :=
  (failure?_bind_of_total fun found => by cases found <;> rfl).trans (site.failure?_findFile? check.changelog)

theorem DeprecationMarkers.failure?_run (check : DeprecationMarkers) : failure? (check.run site) = site.obstacle? [] :=
  (failure?_bind_of_total fun _ => rfl).trans site.failure?_walkFiles

theorem RefactoredComponents.failure?_run (check : RefactoredComponents) : failure? (check.run site) = site.obstacle? [] :=
  (failure?_bind_of_total fun _ => rfl).trans site.failure?_walkFiles

theorem failure?_docstringRatio? : failure? (docstringRatio? site) = site.obstacle? [] :=
  (failure?_bind_of_total fun _ => by dsimp only; split <;> rfl).trans site.failure?_walkFiles

theorem DocumentationFreshness.failure?_run (check : DocumentationFreshness) :
    failure? (check.run site) = site.obstacle? [check.changelog] := by
  calc failure? (check.run site)
      = (failure? (site.findFile? check.changelog)).or (site.obstacle? []) := by
        refine failure?_bind fun found => ?_
        cases found
        -- whatever the changelog holds, the share of docstrings is asked for next
        all_goals
          refine (failure?_bind_of_total fun ratio => ?_).trans (failure?_docstringRatio? site)
          cases ratio with
          | none => rfl
          | some ratio => dsimp only; split <;> rfl
    _ = site.obstacle? [check.changelog] := by
        rw [site.failure?_findFile?, site.obstacle?_or_walk]

theorem VersionFormat.failure?_run (check : VersionFormat) : failure? (check.run site) = site.obstacle? [check.file] :=
  (failure?_bind_of_total fun found => by cases found <;> dsimp only <;> split <;> rfl).trans
    (site.failure?_findFile? check.file)

end Check

namespace CheckSpec

/-- The patterns among the parameters of a check. -/
def patterns : CheckSpec → List String
  | requiredPaths _ => []
  | filePatterns check => check.patterns
  | appStructure _ => []
  | ciPipeline _ => []
  | fileContent check => [check.file]
  | textPresent check => check.files
  | moduleDocstrings check => [check.pattern]
  | readmeSections check => [check.file]
  | modelClasses check => check.files
  | modelFields check => check.files
  | modelRelationships check => check.files
  | tenantBaseModel check => check.files
  | migrations _ => []
  | declaredDependencies check => check.manifests
  | moduleCoupling _ => []
  | definitionsPresent check => check.files
  | testLayout _ => []
  | testCoverage _ => []
  | integrationTests _ => []
  | breakingChanges check => [check.changelog]
  | deprecationMarkers _ => []
  | refactoredComponents _ => []
  | documentationFreshness check => [check.changelog]
  | versionFormat check => [check.file]

/-- Whether a check looks at its applications one by one and has none to look at. -/
def isIdle : CheckSpec → Bool
  | appStructure check => check.apps.isEmpty
  | testLayout check => check.apps.isEmpty
  | _ => false

/-- A check breaks off over its patterns and its root and over nothing else, and an idle check not even over these. -/
theorem failure?_run (check : CheckSpec) (site : Site) :
    failure? (check.run site) = if check.isIdle then none else site.obstacle? check.patterns := by
  cases check with
  | requiredPaths check => exact check.failure?_run site
  | filePatterns check => exact check.failure?_run site
  | appStructure check => exact check.failure?_run site
  | ciPipeline check => exact check.failure?_run site
  | fileContent check => exact check.failure?_run site
  | textPresent check => exact check.failure?_run site
  | moduleDocstrings check => exact check.failure?_run site
  | readmeSections check => exact check.failure?_run site
  | modelClasses check => exact check.failure?_run site
  | modelFields check => exact check.failure?_run site
  | modelRelationships check => exact check.failure?_run site
  | tenantBaseModel check => exact check.failure?_run site
  | migrations check => exact check.failure?_run site
  | declaredDependencies check => exact check.failure?_run site
  | moduleCoupling check => exact check.failure?_run site
  | definitionsPresent check => exact check.failure?_run site
  | testLayout check => exact check.failure?_run site
  | testCoverage check => exact check.failure?_run site
  | integrationTests check => exact check.failure?_run site
  | breakingChanges check => exact check.failure?_run site
  | deprecationMarkers check => exact check.failure?_run site
  | refactoredComponents check => exact check.failure?_run site
  | documentationFreshness check => exact check.failure?_run site
  | versionFormat check => exact check.failure?_run site

end CheckSpec

end Plumbline
