import Plumbline.Check

namespace Plumbline

@[simp, grind =] theorem Issue.issueType_make (file issueType description expected actual : String)
    (severity : Severity) : (make file issueType description expected actual severity).issueType = issueType := rfl

namespace Check

/-- Whether issues are of certain types only. -/
def AreOf (types : List String) (issues : List Issue) : Prop := ∀ issue ∈ issues, issue.issueType ∈ types

/-- Whether a computation gives issues of certain types only, if it gives any. -/
def Gives (types : List String) (x : Except CheckError (List Issue)) : Prop :=
  ∀ issues, x = .ok issues → AreOf types issues

section Closure

variable {α : Type} {types : List String}

theorem AreOf.nil : AreOf types [] := fun _ member => absurd member List.not_mem_nil

theorem AreOf.single {issue : Issue} (here : issue.issueType ∈ types) : AreOf types [issue] :=
  List.forall_mem_singleton.mpr here

theorem AreOf.append {first second : List Issue} (here : AreOf types first) (there : AreOf types second) :
    AreOf types (first ++ second) := List.forall_mem_append.mpr ⟨here, there⟩

theorem AreOf.toList {issue? : Option Issue} (each : ∀ issue, issue? = some issue → issue.issueType ∈ types) :
    AreOf types issue?.toList := fun issue member => each issue (Option.mem_toList.mp member)

theorem AreOf.filterMap {xs : List α} {f : α → Option Issue}
    (each : ∀ a issue, f a = some issue → issue.issueType ∈ types) : AreOf types (xs.filterMap f) := by
  intro issue member
  obtain ⟨a, _, reported⟩ := List.mem_filterMap.mp member
  exact each a issue reported

theorem AreOf.flatMap {xs : List α} {f : α → List Issue} (each : ∀ a, AreOf types (f a)) :
    AreOf types (xs.flatMap f) := by
  intro issue member
  obtain ⟨a, _, reported⟩ := List.mem_flatMap.mp member
  exact each a issue reported

theorem AreOf.map {xs : List α} {f : α → Issue} (each : ∀ a, (f a).issueType ∈ types) : AreOf types (xs.map f) :=
  List.forall_mem_map.mpr fun a _ => each a

theorem Gives.bind {x : Except CheckError α} {f : α → Except CheckError (List Issue)}
    (each : ∀ a, Gives types (f a)) : Gives types (x >>= f) := by
  intro issues gave
  cases x with
  | ok a => exact each a issues gave
  | error e => cases gave

theorem Gives.pure {issues : List Issue} (typed : AreOf types issues) : Gives types (pure issues) := by
  intro given gave
  cases gave
  exact typed

theorem Gives.flatten_mapM {xs : List α} {f : α → Except CheckError (List Issue)} (each : ∀ a, Gives types (f a)) :
    Gives types (do return (← xs.mapM f).flatten) := by
  induction xs with
  | nil => exact Gives.pure AreOf.nil
  | cons a xs ih =>
    intro issues gave
    rw [List.mapM_cons] at gave
    cases here : f a with
    | error e =>
      rw [here] at gave
      cases gave
    | ok first => cases there : xs.mapM f with
      | error e =>
        rw [here, there] at gave
        cases gave
      | ok rest =>
        rw [here, there] at gave
        rw [there] at ih
        cases gave
        exact (each a first here).append (ih rest.flatten rfl)

end Closure

variable (site : Site)

theorem RequiredPaths.gives (check : RequiredPaths) :
    Gives ["missing_directory", "missing_file"] (check.run site) :=
  Gives.bind fun _ => Gives.pure <| AreOf.filterMap fun path => by grind [issue?]

theorem FilePatterns.gives (check : FilePatterns) : Gives [check.issueType] (check.run site) :=
  Gives.bind fun _ => Gives.bind fun _ => Gives.pure <| AreOf.filterMap fun pair => by grind

theorem AppStructure.gives (check : AppStructure) :
    Gives ["missing_app", "missing_app_file", "missing_tests_directory"] (check.run site) := by
  refine Gives.flatten_mapM fun app => Gives.bind fun packages => ?_
  cases packages with
  | nil => exact Gives.pure (AreOf.single (by simp))
  | cons names _ =>
    refine Gives.pure ((AreOf.filterMap fun file => by grind).append ?_)
    split
    · exact AreOf.single (by simp)
    · exact AreOf.nil

theorem CiPipeline.gives (check : CiPipeline) : Gives ["missing_ci_pipeline", "missing_ci_step"] (check.run site) := by
  refine Gives.bind fun workflows => ?_
  split
  · exact Gives.pure (AreOf.single (by simp))
  · dsimp only
    split
    · exact Gives.pure AreOf.nil
    · exact Gives.pure <| AreOf.filterMap fun step => by grind [stepIssue?]

theorem FileContent.gives (check : FileContent) : Gives ["missing_file", "missing_content"] (check.run site) := by
  refine Gives.bind fun found => ?_
  cases found with
  | none => exact Gives.pure (AreOf.single (by simp))
  | some file => exact Gives.pure <| AreOf.filterMap fun requirement => by grind

theorem TextPresent.gives (check : TextPresent) : Gives [check.issueType] (check.run site) :=
  Gives.bind fun _ => Gives.pure <| AreOf.filterMap fun requirement => by grind

theorem ModuleDocstrings.gives (check : ModuleDocstrings) :
    Gives ["missing_file", "empty_file", "missing_docstring"] (check.run site) := by
  refine Gives.bind fun files => ?_
  dsimp only
  split
  · exact Gives.pure <| AreOf.toList fun issue => by grind [Option.map_eq_some_iff]
  · exact Gives.pure <| AreOf.filterMap fun file => by grind [issue?]

theorem ReadmeSections.gives (check : ReadmeSections) :
    Gives ["missing_readme_section", "incomplete_documentation", "missing_readme_title", "insufficient_documentation"]
      (check.run site) := by
  refine Gives.bind fun found => ?_
  cases found with
  | none => exact Gives.pure AreOf.nil
  | some file =>
    refine Gives.pure ((((AreOf.map fun element => by simp).append ?_).append ?_).append ?_)
    all_goals
      split
      · first | exact AreOf.nil | exact AreOf.single (by simp)
      · first | exact AreOf.nil | exact AreOf.single (by simp)

theorem ModelClasses.gives (check : ModelClasses) : Gives ["missing_model"] (check.run site) :=
  Gives.bind fun _ => Gives.pure <| AreOf.filterMap fun model => by grind [missingModel]

theorem ModelFields.gives (check : ModelFields) :
    Gives ["missing_model", "missing_model_field"] (check.run site) := by
  refine Gives.bind fun classes => ?_
  dsimp only
  split
  · exact Gives.pure (AreOf.single (by simp [missingModel]))
  · exact Gives.pure <| AreOf.filterMap fun field => by grind [fieldIssue?]

theorem ModelRelationships.gives (check : ModelRelationships) :
    Gives ["missing_model_relationship"] (check.run site) :=
  Gives.bind fun _ => Gives.pure <| AreOf.filterMap fun relation => by grind [relationIssue?]

theorem TenantBaseModel.gives (check : TenantBaseModel) :
    Gives ["missing_base_model", "missing_model_field", "base_model_not_abstract", "model_not_tenant_scoped"]
      (check.run site) := by
  refine Gives.bind fun classes => Gives.pure (AreOf.append ?_ <| AreOf.filterMap fun model => by grind [modelIssue?])
  simp only [baseIssues]
  split
  · exact AreOf.single (by simp)
  · refine AreOf.append ?_ ?_
    all_goals
      split
      · exact AreOf.nil
      · exact AreOf.single (by simp)

theorem Migrations.gives (check : Migrations) :
    Gives ["missing_migrations", "missing_migration_operation", "irreversible_migration"] (check.run site) := by
  refine Gives.bind fun files => Gives.pure (AreOf.append (AreOf.append ?_ ?_) ?_)
  · exact AreOf.filterMap fun app => by grind
  · exact AreOf.filterMap fun operation => by grind
  · split
    · exact AreOf.flatMap fun (path, text) => AreOf.map fun call => by simp
    · exact AreOf.nil

theorem DeclaredDependencies.gives (check : DeclaredDependencies) :
    Gives ["missing_dependency_manifest", "missing_dependency", "dependency_version_mismatch"] (check.run site) := by
  refine Gives.bind fun files => ?_
  dsimp only
  split
  · exact Gives.pure (AreOf.single (by simp))
  · exact Gives.pure <| AreOf.filterMap fun package => by grind [packageIssue?]

theorem ModuleCoupling.gives (check : ModuleCoupling) : Gives ["missing_module", "isolated_module"] (check.run site) :=
  Gives.bind fun _ => Gives.pure <| AreOf.filterMap fun module => by grind [moduleIssue?]

theorem DefinitionsPresent.gives (check : DefinitionsPresent) : Gives [check.issueType] (check.run site) :=
  Gives.bind fun _ => Gives.pure <| AreOf.filterMap fun name => by grind

theorem TestLayout.gives (check : TestLayout) :
    Gives ["missing_tests_directory", "missing_test_file"] (check.run site) := by
  refine Gives.flatten_mapM fun app => Gives.bind fun packages => ?_
  cases packages with
  | nil => exact Gives.pure AreOf.nil
  | cons names _ =>
    dsimp only
    split
    · exact Gives.pure (AreOf.single (by simp))
    · exact Gives.pure <| AreOf.filterMap fun file => by grind

theorem TestCoverage.gives (check : TestCoverage) : Gives ["missing_tests", "insufficient_tests"] (check.run site) :=
  Gives.bind fun _ => Gives.pure <| AreOf.filterMap fun module => by grind [coverageIssue?]

theorem IntegrationTests.gives (check : IntegrationTests) :
    Gives ["missing_integration_tests", "missing_test_scenario"] (check.run site) := by
  refine Gives.bind fun files => ?_
  dsimp only
  split
  · exact Gives.pure (AreOf.single (by simp))
  · exact Gives.pure <| AreOf.filterMap fun scenario => by grind [scenarioIssue?]

theorem BreakingChanges.gives (check : BreakingChanges) :
    Gives ["missing_changelog", "undocumented_breaking_change"] (check.run site) := by
  refine Gives.bind fun found => ?_
  cases found with
  | none => exact Gives.pure (AreOf.single (by simp [missingChangelog]))
  | some file => exact Gives.pure <| AreOf.filterMap fun change => by grind [changeIssue?]

theorem DeprecationMarkers.gives (check : DeprecationMarkers) :
    Gives ["missing_deprecation_warning"] (check.run site) :=
  Gives.bind fun _ => Gives.pure <| AreOf.flatMap fun feature => AreOf.filterMap fun (path, text) => by
    grind [deprecationIssue?]

theorem RefactoredComponents.gives (check : RefactoredComponents) :
    Gives ["missing_refactored_component", "untested_refactoring"] (check.run site) :=
  Gives.bind fun _ => Gives.pure <| AreOf.filterMap fun component => by grind [componentIssue?]

theorem DocumentationFreshness.gives (check : DocumentationFreshness) :
    Gives ["missing_changelog", "outdated_documentation", "insufficient_documentation"] (check.run site) := by
  refine Gives.bind fun found => ?_
  extract_lets changelog
  have typed : AreOf ["missing_changelog", "outdated_documentation", "insufficient_documentation"] changelog := by
    cases found with
    | none => exact AreOf.single (by simp [missingChangelog])
    | some file => exact AreOf.toList fun issue => by grind [recencyIssue?]
  refine Gives.bind fun ratio => ?_
  cases ratio with
  | none => exact Gives.pure typed
  | some ratio =>
    dsimp only
    split
    · exact Gives.pure (typed.append (AreOf.single (by simp)))
    · exact Gives.pure typed

theorem VersionFormat.gives (check : VersionFormat) :
    Gives ["missing_file", "missing_version", "invalid_version_format", "missing_release_tags", "invalid_tag_format"]
      (check.run site) := by
  refine Gives.bind fun found => ?_
  extract_lets version
  have typed : AreOf
      ["missing_file", "missing_version", "invalid_version_format", "missing_release_tags", "invalid_tag_format"]
      version := by
    cases found with
    | none => exact AreOf.single (by simp)
    | some found => exact AreOf.toList fun issue => by grind [versionIssue?]
  split
  · rename_i tags absent _
    refine Gives.pure ((typed.append ?_).append (AreOf.filterMap fun tag => by grind [tagIssue?]))
    dsimp only [absent]
    split
    · exact AreOf.single (by simp)
    · exact AreOf.nil
  · exact Gives.pure typed

end Check

namespace CheckSpec

/-- The types that the issues of a check can have. -/
def issueTypes : CheckSpec → List String
  | requiredPaths _ => ["missing_directory", "missing_file"]
  | filePatterns check => [check.issueType]
  | appStructure _ => ["missing_app", "missing_app_file", "missing_tests_directory"]
  | ciPipeline _ => ["missing_ci_pipeline", "missing_ci_step"]
  | fileContent _ => ["missing_file", "missing_content"]
  | textPresent check => [check.issueType]
  | moduleDocstrings _ => ["missing_file", "empty_file", "missing_docstring"]
  | readmeSections _ =>
    ["missing_readme_section", "incomplete_documentation", "missing_readme_title", "insufficient_documentation"]
  | modelClasses _ => ["missing_model"]
  | modelFields _ => ["missing_model", "missing_model_field"]
  | modelRelationships _ => ["missing_model_relationship"]
  | tenantBaseModel _ =>
    ["missing_base_model", "missing_model_field", "base_model_not_abstract", "model_not_tenant_scoped"]
  | migrations _ => ["missing_migrations", "missing_migration_operation", "irreversible_migration"]
  | declaredDependencies _ => ["missing_dependency_manifest", "missing_dependency", "dependency_version_mismatch"]
  | moduleCoupling _ => ["missing_module", "isolated_module"]
  | definitionsPresent check => [check.issueType]
  | testLayout _ => ["missing_tests_directory", "missing_test_file"]
  | testCoverage _ => ["missing_tests", "insufficient_tests"]
  | integrationTests _ => ["missing_integration_tests", "missing_test_scenario"]
  | breakingChanges _ => ["missing_changelog", "undocumented_breaking_change"]
  | deprecationMarkers _ => ["missing_deprecation_warning"]
  | refactoredComponents _ => ["missing_refactored_component", "untested_refactoring"]
  | documentationFreshness _ => ["missing_changelog", "outdated_documentation", "insufficient_documentation"]
  | versionFormat _ =>
    ["missing_file", "missing_version", "invalid_version_format", "missing_release_tags", "invalid_tag_format"]

/-- A check reports issues of its own types only. -/
theorem gives_issueTypes (check : CheckSpec) (site : Site) : Check.Gives check.issueTypes (check.run site) := by
  cases check with
  | requiredPaths check => exact check.gives site
  | filePatterns check => exact check.gives site
  | appStructure check => exact check.gives site
  | ciPipeline check => exact check.gives site
  | fileContent check => exact check.gives site
  | textPresent check => exact check.gives site
  | moduleDocstrings check => exact check.gives site
  | readmeSections check => exact check.gives site
  | modelClasses check => exact check.gives site
  | modelFields check => exact check.gives site
  | modelRelationships check => exact check.gives site
  | tenantBaseModel check => exact check.gives site
  | migrations check => exact check.gives site
  | declaredDependencies check => exact check.gives site
  | moduleCoupling check => exact check.gives site
  | definitionsPresent check => exact check.gives site
  | testLayout check => exact check.gives site
  | testCoverage check => exact check.gives site
  | integrationTests check => exact check.gives site
  | breakingChanges check => exact check.gives site
  | deprecationMarkers check => exact check.gives site
  | refactoredComponents check => exact check.gives site
  | documentationFreshness check => exact check.gives site
  | versionFormat check => exact check.gives site

end CheckSpec

end Plumbline
