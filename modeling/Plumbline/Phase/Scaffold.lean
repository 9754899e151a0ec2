import Plumbline.Check
import Plumbline.Specification
import Plumbline.Text.Slug

namespace Plumbline.Scaffold

/-- The name of the rule about something that a blueprint names. -/
def ruleName (kind subject : String) : String := s!"validate_{kind}" ++ String.ofList (Text.slug subject.toList)

def layoutRules (spec : Specification) : List Rule :=
  Rule.given (!spec.layout.paths.isEmpty)
    ⟨"validate_directory_structure", "Directory layout declared by the Blueprint", .high, .layout,
      .requiredPaths ⟨spec.layout.paths⟩⟩

/-- What a repository must not keep. -/
def ignoreRequirements (hasFrontend : Bool) : List Requirement := [
  ⟨"Python bytecode caches are ignored", ["__pycache__"], .medium⟩,
  ⟨"Compiled Python files are ignored", ["*.py[cod]", "*.pyc"], .medium⟩,
  ⟨"Local environment files are ignored", [".env"], .high⟩] ++
  if hasFrontend then [⟨"Frontend dependencies are ignored", ["node_modules"], .medium⟩] else []

def ignoreRule (spec : Specification) : Rule :=
  ⟨"validate_gitignore_content", ".gitignore covers build artifacts and secrets", .high, .content,
    .fileContent ⟨".gitignore", .critical, ignoreRequirements !spec.frontendFramework.isEmpty⟩⟩

def projectFileRule : Rule :=
  ⟨"validate_pyproject_content", "pyproject.toml configures the code-quality tools", .high, .content,
    .fileContent ⟨"pyproject.toml", .high, [
      ⟨"Linter is configured", ["[tool.ruff]"], .medium⟩,
      ⟨"Formatter is configured", ["[tool.black]"], .medium⟩,
      ⟨"Line length is set", ["line-length"], .medium⟩]⟩⟩

def hooks : List String := ["pre-commit-hooks", "trailing-whitespace", "end-of-file-fixer", "black", "ruff"]

def hooksRule : Rule :=
  ⟨"validate_precommit_config_content", ".pre-commit-config.yaml declares the standard hooks", .medium, .content,
    .fileContent ⟨".pre-commit-config.yaml", .medium,
      Requirement.literal hooks (fun hook => s!"Hook {hook} is configured") .medium⟩⟩

def environmentRule : Rule :=
  ⟨"validate_env_example_file", ".env.example documents the basic environment variables", .medium, .content,
    .fileContent ⟨".env.example", .medium,
      Requirement.literal ["DEBUG", "SECRET_KEY", "DATABASE_URL"] (fun key => s!"{key} is documented") .medium⟩⟩

/-- The names of drivers for a database. -/
def drivers? : String → Option (List String)
  | "postgresql" => some ["psycopg"]
  | "mysql" => some ["mysqlclient", "pymysql"]
  | _ => none

/-- The texts that would show that an expectation is met, where it says anything definite. -/
def waysToMeet? (spec : Specification) (expectation : String) : Option (List String) :=
  let wording := Text.lower expectation.toList
  let mentions (words : String) : Bool := Text.contains words.toList wording
  let base := spec.baseModelClass
  if mentions "installed_apps" then some ["INSTALLED_APPS"]
  else if Text.startsWith "databases uses".toList wording then some [spec.database]
  else if mentions "rest_framework" then some ["REST_FRAMEWORK"]
  else if mentions "tenancy middleware" then some ["TenantMiddleware", "tenancy.middleware", "tenants.middleware"]
  else if mentions "inherit from" && !base.isEmpty then some ["(" ++ base ++ ")"]
  else if Text.endsWith "is defined".toList wording && !base.isEmpty then some ["class " ++ base]
  else if mentions "tenant field" then some ["tenant =", "tenant="]
  else if mentions "rest framework dependency" then if spec.isDjango then some ["djangorestframework"] else none
  else if mentions "framework dependency" then some [spec.backendFramework]
  else if mentions "database driver" then drivers? spec.database
  else if mentions "development dependencies" then
    some ["[tool.poetry.group.dev", "[tool.poetry.dev-dependencies]", "[project.optional-dependencies]",
      "[dependency-groups]"]
  else none

/-- The requirement that an expectation comes to. An empty text shows nothing. -/
def requirement? (spec : Specification) (expectation : String) : Option Requirement := do
  let ways ← waysToMeet? spec expectation
  if ways.any String.isEmpty then none else some ⟨expectation, ways, .high⟩

/-- Any copy of a file that the layout holds more than once may meet the requirements. -/
def contentCheck (spec : Specification) (file : String) (requirements : List Requirement) : CheckSpec :=
  if 1 < (spec.layout.holders file).length then .textPresent ⟨[file], "missing_content", requirements⟩
  else .fileContent ⟨file, .high, requirements⟩

def contentRules (spec : Specification) : List Rule :=
  spec.contentExpectations.entries.flatMap fun (file, expectations) =>
    let requirements := expectations.filterMap (requirement? spec)
    Rule.given (!requirements.isEmpty)
      ⟨ruleName "content_" file, s!"Content expected in {file}", .high, .content, contentCheck spec file requirements⟩

/-- The packages that come with the framework. -/
def usualPackages (database : String) : List String :=
  ["django", "djangorestframework"] ++
    match database with
    | "postgresql" => ["psycopg2-binary"]
    | "mysql" => ["mysqlclient"]
    | _ => []

/-- The packages a blueprint asks for, or the usual ones when it asks for none. -/
def packages (spec : Specification) : List String :=
  let asked := spec.dependencies.backend.filter fun name => Text.asciiLower name.toList != "python".toList
  if asked.isEmpty && spec.isDjango then usualPackages spec.database else asked

def packageRule (spec : Specification) (name : String) : Rule :=
  ⟨ruleName "dependency_" name, s!"Critical dependency {name} is declared", .high, .dependencies,
    .declaredDependencies ⟨["pyproject.toml", "requirements*.txt"],
      [⟨name, spec.dependencies.pinned.get? name, .high⟩]⟩⟩

def settingsRule : Rule :=
  ⟨"validate_django_settings_advanced", "settings.py exists and opens with a module docstring", .high, .content,
    .moduleDocstrings ⟨"settings.py", false, some .high, .medium⟩⟩

/-- The models below the base class, without itself. -/
def tenantModels (spec : Specification) : List String :=
  (spec.models.filter fun model => model.name != spec.baseModelClass && model.derivesFrom spec.baseModelClass).map
    Model.name

def tenancyRules (spec : Specification) : List Rule :=
  let base := spec.baseModelClass
  Rule.given (spec.multiTenancy && !base.isEmpty)
    ⟨"validate_multi_tenancy_implementation", s!"Abstract {base} carries the tenant and scopes the models", .high,
      .models, .tenantBaseModel ⟨["models.py", "models/*.py"], base, "tenant", tenantModels spec⟩⟩

/-- Whether there are applications whose modules have fixed names. -/
def hasApps (spec : Specification) : Bool := spec.isDjango && !spec.apps.isEmpty

def modelRules (spec : Specification) : List Rule :=
  Rule.given (hasApps spec)
    ⟨"validate_django_models", "Every application has a models module", .high, .models,
      .filePatterns ⟨spec.apps.map (· ++ "/models.py"), "missing_file", .high⟩⟩ ++
  Rule.given (hasApps spec)
    ⟨"validate_model_files_docstrings", "Model modules open with a docstring", .medium, .content,
      .moduleDocstrings ⟨"models.py", true, none, .medium⟩⟩

def appRules (spec : Specification) : List Rule :=
  Rule.given (hasApps spec)
    ⟨"validate_django_apps_structure", "Applications carry the standard modules and a tests package", .high, .layout,
      .appStructure ⟨spec.apps, ["models.py", "views.py", "apps.py", "__init__.py"], true⟩⟩

def integrationRules (spec : Specification) : List Rule :=
  Rule.given (!spec.ciCd.isEmpty)
    ⟨"validate_github_actions_pipeline", "CI workflow runs tests, lint and build", .medium, .layout,
      .ciPipeline ⟨["test", "lint", "build"]⟩⟩

def testRules (spec : Specification) : List Rule :=
  Rule.given (hasApps spec)
    ⟨"validate_complete_test_structure", "Each application has factories and model/view tests", .medium, .layout,
      .testLayout ⟨spec.apps, ["factories.py", "test_models.py", "test_views.py"]⟩⟩

/-- A word with its first letter in upper case. -/
def capitalized (word : String) : String :=
  match word.toList with
  | [] => ""
  | c :: rest => String.ofList (Text.upperChar c ++ rest)

/-- The heading that opens with the first word of the project's name. -/
def titleWords (projectName : String) : List String :=
  ((Text.fields (fun c => c == ' ' || c == ':') projectName.toList).take 1).map fun word => "# " ++ String.ofList word

/-- The technologies by name. -/
def stack (spec : Specification) : List String :=
  [spec.backendFramework, spec.frontendFramework, spec.database, spec.testingFramework].filter (!·.isEmpty)

def readmeSections (spec : Specification) : Check.ReadmeSections where
  file := "README.md"
  critical := titleWords spec.projectName ++ if spec.dockerFiles.isEmpty then [] else ["Docker"]
  important := (stack spec).map capitalized ++ ["git clone"] ++ if spec.multiTenancy then ["multi-tenant"] else []
  maxMissingImportant := 3
  minSections := 3

def essentialDocs : List String := ["README.md", "LICENSE", "CHANGELOG.md", "CONTRIBUTING.md"]

def presenceRule (file issueType : String) (category : Category) : Rule :=
  ⟨ruleName "" file, s!"{file} is present", .medium, category, .filePatterns ⟨[file], issueType, .medium⟩⟩

def documentationRules (spec : Specification) : List Rule :=
  (essentialDocs.filter spec.mentionsDoc).map (presenceRule · "missing_documentation" .content) ++
  Rule.given (spec.mentionsDoc "README.md")
    ⟨"validate_readme_content_specific", "README covers the project and its stack", .high, .content,
      .readmeSections (readmeSections spec)⟩

def containerRules (spec : Specification) : List Rule :=
  spec.dockerFiles.map (presenceRule · "missing_docker_file" .layout)

def qualityRule : Rule :=
  ⟨"validate_development_quality_tools", "Pre-commit and gitignore are set up", .medium, .layout,
    .filePatterns ⟨[".pre-commit-config.yaml", ".gitignore"], "missing_file", .medium⟩⟩

/-- The rules of a skeleton: that what a blueprint lays out is present and well shaped, but not what it does. -/
def rules (spec : Specification) : List Rule :=
  layoutRules spec ++ [ignoreRule spec] ++
  Rule.given (spec.isDjango || spec.configFiles.contains "pyproject.toml") projectFileRule ++
  [hooksRule, environmentRule] ++ contentRules spec ++ (packages spec).map (packageRule spec) ++
  Rule.given spec.isDjango settingsRule ++ tenancyRules spec ++ modelRules spec ++ appRules spec ++
  integrationRules spec ++ testRules spec ++ documentationRules spec ++ containerRules spec ++ [qualityRule]

end Plumbline.Scaffold
