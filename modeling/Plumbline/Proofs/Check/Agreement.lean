import Plumbline.Proofs.Check.Demands
import Plumbline.Proofs.Files.Walk

namespace Plumbline

theorem bind_congr_of_ok {ε α β : Type} {x : Except ε α} {f g : α → Except ε β} (same : ∀ v, x = .ok v → f v = g v) :
    x >>= f = x >>= g := by
  cases x with
  | error e => rfl
  | ok v => exact same v rfl

namespace Site

variable {site : Site}

theorem hasRoot_of_unhindered {patterns : List String} (unhindered : site.obstacle? patterns = none) :
    site.hasRoot = true := by
  by_contra rootless
  rw [obstacle?_of_not_hasRoot (Bool.eq_false_iff.mpr rootless)] at unhindered
  cases unhindered

theorem hasRoot_of_walk {passed : List (List String × Node)} (walked : site.walk = .ok passed) :
    site.hasRoot = true := by
  have unhindered : site.obstacle? [] = none := by
    rw [← site.failure?_walk, walked]
    rfl
  exact hasRoot_of_unhindered unhindered

/-- What a walk passes has proper names. -/
theorem WellFormed.isName_of_mem_walk (formed : site.WellFormed) {passed : List (List String × Node)}
    (walked : site.walk = .ok passed) {names : List String} {node : Node} (member : (names, node) ∈ passed) :
    names ≠ [] ∧ ∀ name ∈ names, IsName name := by
  rw [walk] at walked
  split at walked
  · rename_i entries found
    cases walked
    obtain ⟨_, _, there⟩ := FileSystem.node?_eq_some_iff.mp found
    have inside := formed.find? there
    rw [inside.sorted_eq_self] at member
    obtain ⟨name, rest, rfl, leads⟩ := inside.find?_of_mem_walkInto member
    exact ⟨List.cons_ne_nil _ _, inside.isName_of_find? leads⟩
  · cases walked

theorem exists_mem_walk_of_directory {directories : List (List String)}
    (walked : site.walkDirectories = .ok directories) {names : List String} (member : names ∈ directories) :
    ∃ passed node, site.walk = .ok passed ∧ (names, node) ∈ passed := by
  rw [walkDirectories] at walked
  cases found : site.walk with
  | error e => rw [found] at walked; cases walked
  | ok passed =>
    rw [found] at walked
    cases walked
    obtain ⟨⟨names', node⟩, inWalk, kept⟩ := List.mem_filterMap.mp member
    dsimp only at kept
    split at kept
    · cases kept
      exact ⟨passed, node, rfl, inWalk⟩
    · cases kept

theorem exists_mem_walk_of_file {patterns : List String} {files : List FoundFile}
    (matched : site.filesMatching patterns = .ok files) {file : FoundFile} (member : file ∈ files) :
    ∃ passed node, site.walk = .ok passed ∧ (file.names, node) ∈ passed := by
  rw [filesMatching, walkFiles] at matched
  cases parsed : PathPattern.parseAll patterns with
  | error e => rw [parsed] at matched; cases matched
  | ok compiled =>
    cases found : site.walk with
    | error e => rw [parsed, found] at matched; cases matched
    | ok passed =>
      rw [parsed, found] at matched
      cases matched
      obtain ⟨⟨names, node⟩, inWalk, kept⟩ := List.mem_filterMap.mp (List.mem_of_mem_filter member)
      cases node with
      | directory entries => cases kept
      | file text =>
        cases kept
        exact ⟨passed, _, rfl, inWalk⟩

end Site

namespace Check

open Site

variable {a b : Site} (agree : a.Agrees b) (formed : a.WellFormed) (formed' : b.WellFormed)

include agree formed formed'

theorem isFileAt_of_isPlain (rooted : a.hasRoot = true) {path : String} (plain : Path.IsPlain path) :
    a.isFileAt path = b.isFileAt path := by
  rw [isFileAt, isFileAt, FileSystem.isFile, FileSystem.isFile, agree.node?_of_isPlain formed formed' rooted plain]

theorem isDirectoryAt_of_isPlain (rooted : a.hasRoot = true) {path : String} (plain : Path.IsPlain path) :
    a.isDirectoryAt path = b.isDirectoryAt path := by
  rw [isDirectoryAt, isDirectoryAt, FileSystem.isDirectory, FileSystem.isDirectory,
    agree.node?_of_isPlain formed formed' rooted plain]

theorem packageDirectories_of_agrees (app : String) : packageDirectories a app = packageDirectories b app := by
  rw [packageDirectories, packageDirectories, ← agree.walkDirectories formed formed']
  refine bind_congr_of_ok fun directories walked => congrArg Except.ok (List.filter_congr fun names member => ?_)
  obtain ⟨passed, node, walked, inWalk⟩ := exists_mem_walk_of_directory walked member
  obtain ⟨nonempty, named⟩ := formed.isName_of_mem_walk walked inWalk
  have plain : Path.IsPlain (Path.join (Path.ofSteps names) "__init__.py") :=
    (Path.isPlain_ofSteps nonempty named).join (by decide)
  rw [isFileAt_of_isPlain agree formed formed' (hasRoot_of_walk walked) plain]

omit agree formed' in
theorem isPlain_of_package {app : String} {names : List String} {rest : List (List String)}
    (found : packageDirectories a app = .ok (names :: rest)) :
    a.hasRoot = true ∧ Path.IsPlain (Path.ofSteps names) := by
  rw [packageDirectories] at found
  cases walked : a.walkDirectories with
  | error e => rw [walked] at found; cases found
  | ok directories =>
    rw [walked] at found
    have kept : directories.filter _ = names :: rest := Except.ok.inj found
    have member : names ∈ directories := List.mem_of_mem_filter (kept ▸ List.mem_cons_self)
    obtain ⟨passed, node, walked, inWalk⟩ := exists_mem_walk_of_directory walked member
    obtain ⟨nonempty, named⟩ := formed.isName_of_mem_walk walked inWalk
    exact ⟨hasRoot_of_walk walked, Path.isPlain_ofSteps nonempty named⟩

theorem isInPackage_of_agrees {patterns : List String} {files : List FoundFile}
    (matched : a.filesMatching patterns = .ok files) {file : FoundFile} (member : file ∈ files) :
    isInPackage a file = isInPackage b file := by
  obtain ⟨passed, node, walked, inWalk⟩ := exists_mem_walk_of_file matched member
  obtain ⟨_, named⟩ := formed.isName_of_mem_walk walked inWalk
  have beside : ∀ name ∈ file.names.dropLast ++ ["__init__.py"], IsName name := by
    refine List.forall_mem_append.mpr ⟨fun name early => named name (List.dropLast_subset _ early), ?_⟩
    exact List.forall_mem_singleton.mpr (by decide)
  exact isFileAt_of_isPlain agree formed formed' (hasRoot_of_walk walked)
    (Path.isPlain_ofSteps (List.concat_ne_nil _ _) beside)

theorem demands_of_agrees (check : CheckSpec) : check.demands a = check.demands b := by
  have packages := packageDirectories_of_agrees agree formed formed'
  cases check with
  | appStructure check => simp only [CheckSpec.demands, packageDemands, packages]
  | testLayout check =>
    refine List.flatMap_congr fun app _ => ?_
    rw [packageDemands, packageDemands, ← packages]
    cases found : packageDirectories a app with
    | error e => rfl
    | ok packages =>
      cases packages with
      | nil => rfl
      | cons names rest =>
        obtain ⟨rooted, plain⟩ := isPlain_of_package formed found
        have below : Path.IsPlain "tests" := by decide
        have tests := isDirectoryAt_of_isPlain agree formed formed' rooted (plain.join below)
        dsimp only
        rw [TestLayout.inside, TestLayout.inside, tests]
  | _ => rfl

theorem gitTags_of_agrees (rooted : a.hasRoot = true) : gitTags a = gitTags b := by
  have plainLoose : Path.IsPlain ".git/refs/tags" := by decide
  have plainPacked : Path.IsPlain ".git/packed-refs" := by decide
  have loose := agree.node?_of_isPlain formed formed' rooted plainLoose
  have packed (text : String) : a.files.read (a.locate ".git/packed-refs") = .ok text ↔
      b.files.read (b.locate ".git/packed-refs") = .ok text := by
    rw [FileSystem.read_eq_ok_iff, FileSystem.read_eq_ok_iff, agree.node?_of_isPlain formed formed' rooted plainPacked]
  rw [gitTags, gitTags, loose]
  cases found : a.files.read (a.locate ".git/packed-refs") with
  | ok text => rw [(packed text).mp found]
  | error e =>
    cases found' : b.files.read (b.locate ".git/packed-refs") with
    | error e => rfl
    | ok text =>
      rw [(packed text).mpr found'] at found
      cases found

omit agree formed formed' in
theorem hasRoot_of_mem_packageDemands {app : String} {absent : List Demand} {inside : List String → List Demand}
    {demand : Demand} (member : demand ∈ packageDemands a app absent inside) : a.hasRoot = true := by
  cases found : packageDirectories a app with
  | error e =>
    rw [packageDemands, found] at member
    cases member
  | ok packages =>
    have unhindered : a.obstacle? [] = none := by
      rw [← failure?_packageDirectories a app, found]
      rfl
    exact hasRoot_of_unhindered unhindered

/-- Sites that agree and answer the demands of a check alike give it one result. -/
theorem run_of_agrees (check : CheckSpec)
    (alike : a.hasRoot = true → ∀ demand ∈ check.demands a, demand.isMet a = demand.isMet b) :
    check.run a = check.run b := by
  have walks := agree.walk formed formed'
  have files := agree.walkFiles formed formed'
  have matching := agree.filesMatching formed formed'
  have finds := agree.findFile? formed formed'
  have texts := agree.textsMatching formed formed'
  cases check with
  | requiredPaths check =>
    rw [CheckSpec.run, RequiredPaths.run, RequiredPaths.run, walks]
    refine bind_congr_of_ok fun passed walked => congrArg Except.ok (List.filterMap_congr fun path member => ?_)
    rw [← walks] at walked
    exact RequiredPaths.issue?_congr (alike (hasRoot_of_walk walked) _ (List.mem_map_of_mem member))
  | appStructure check =>
    have each : check.apps.mapM (check.issuesOf a) = check.apps.mapM (check.issuesOf b) := by
      refine mapM_congr fun app member => ?_
      refine AppStructure.issuesOf_congr (packageDirectories_of_agrees agree formed formed' app) agree.shown ?_
      exact fun demand inside =>
        alike (hasRoot_of_mem_packageDemands inside) demand (List.mem_flatMap.mpr ⟨app, member, inside⟩)
    rw [CheckSpec.run, AppStructure.run, AppStructure.run, each]
  | testLayout check =>
    have each : check.apps.mapM (check.issuesOf a) = check.apps.mapM (check.issuesOf b) := by
      refine mapM_congr fun app member => ?_
      refine TestLayout.issuesOf_congr (packageDirectories_of_agrees agree formed formed' app) agree.shown ?_
      exact fun demand inside =>
        alike (hasRoot_of_mem_packageDemands inside) demand (List.mem_flatMap.mpr ⟨app, member, inside⟩)
    rw [CheckSpec.run, TestLayout.run, TestLayout.run, each]
  | moduleDocstrings check =>
    rw [CheckSpec.run, ModuleDocstrings.run, ModuleDocstrings.run, ← matching]
    refine bind_congr_of_ok fun found matched => ?_
    have inPackage : ∀ file ∈ found, isInPackage a file = isInPackage b file := fun file member =>
      isInPackage_of_agrees agree formed formed' matched member
    have kept : (found.filter fun file => !check.packagesOnly || isInPackage a file) =
        found.filter fun file => !check.packagesOnly || isInPackage b file :=
      List.filter_congr fun file member => by rw [inPackage file member]
    rw [kept]
  | versionFormat check =>
    rw [CheckSpec.run, VersionFormat.run, VersionFormat.run, ← finds]
    refine bind_congr_of_ok fun found matched => ?_
    have unhindered : a.obstacle? [check.file] = none := by
      rw [← a.failure?_findFile?, matched]
      rfl
    have rooted := hasRoot_of_unhindered unhindered
    have plain : Path.IsPlain ".git" := by decide
    rw [isDirectoryAt_of_isPlain agree formed formed' rooted plain, gitTags_of_agrees agree formed formed' rooted]
  | filePatterns check => simp only [CheckSpec.run, FilePatterns.run, files]
  | ciPipeline check => simp only [CheckSpec.run, CiPipeline.run, matching]
  | fileContent check => simp only [CheckSpec.run, FileContent.run, finds]
  | textPresent check => simp only [CheckSpec.run, TextPresent.run, texts]
  | readmeSections check => simp only [CheckSpec.run, ReadmeSections.run, finds]
  | modelClasses check => simp only [CheckSpec.run, ModelClasses.run, classesIn, matching]
  | modelFields check => simp only [CheckSpec.run, ModelFields.run, classesIn, matching]
  | modelRelationships check => simp only [CheckSpec.run, ModelRelationships.run, classesIn, matching]
  | tenantBaseModel check => simp only [CheckSpec.run, TenantBaseModel.run, classesIn, matching]
  | migrations check => simp only [CheckSpec.run, Migrations.run, migrationFiles, matching, agree.parentName?]
  | declaredDependencies check => simp only [CheckSpec.run, DeclaredDependencies.run, matching]
  | moduleCoupling check =>
    have issue : moduleIssue? a = moduleIssue? b := by
      funext found module
      simp only [moduleIssue?, locateModule?, agree.parentName?]
    simp only [CheckSpec.run, ModuleCoupling.run, files, issue]
  | definitionsPresent check => simp only [CheckSpec.run, DefinitionsPresent.run, texts]
  | testCoverage check => simp only [CheckSpec.run, TestCoverage.run, testFiles, files]
  | integrationTests check => simp only [CheckSpec.run, IntegrationTests.run, testFiles, files]
  | breakingChanges check => simp only [CheckSpec.run, BreakingChanges.run, finds]
  | deprecationMarkers check => simp only [CheckSpec.run, DeprecationMarkers.run, files]
  | refactoredComponents check =>
    have issue : componentIssue? a = componentIssue? b := by
      funext sources tests component
      have holds : holdsComponent a component = holdsComponent b component := by
        funext file
        rw [holdsComponent, holdsComponent, agree.parentName?]
      simp only [componentIssue?, holds]
    simp only [CheckSpec.run, RefactoredComponents.run, files, issue]
  | documentationFreshness check =>
    simp only [CheckSpec.run, DocumentationFreshness.run, docstringRatio?, finds, files]

end Check

end Plumbline
