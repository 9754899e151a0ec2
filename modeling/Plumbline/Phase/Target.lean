import Plumbline.Check
import Plumbline.Phase.Context
import Plumbline.Specification

namespace Plumbline.Target

/-- The models are spread over this many targets. -/
def slots : Nat := 8

/-- The models of one target. All targets take equally many, and at least one. Nought counts as the first target. -/
def share (models : List String) (number : Nat) : List String :=
  let size := max 1 (models.length / slots)
  (models.drop ((number - 1) * size)).take size

/-- What targets are about: accounts first, then business, then administration. -/
inductive Band where
  | accounts
  | business
  | administration
deriving DecidableEq, Repr

def Band.ofNumber (number : Nat) : Band :=
  if number ≤ 3 then .accounts else if number ≤ 5 then .business else .administration

def usualViews (band : Band) (hasFinance : Bool) : List String :=
  match band with
  | .accounts => ["LoginView", "RegisterView", "UserProfileView"]
  | .business =>
    if hasFinance then ["LoanListView", "LoanDetailView", "TransactionView"] else ["DashboardView", "ReportView"]
  | .administration => ["AdminView", "AnalyticsView", "ExportView"]

def usualUrls (band : Band) (hasFinance : Bool) : List String :=
  match band with
  | .accounts => ["api/auth/", "api/users/", "api/profile/"]
  | .business => if hasFinance then ["api/loans/", "api/transactions/"] else ["api/dashboard/", "api/reports/"]
  | .administration => ["api/admin/", "api/analytics/"]

/-- The modules of the first application that suits the band. -/
def usualFiles (band : Band) (apps : List String) : List String :=
  let modules (app : String) : List String := [app ++ "/views.py", app ++ "/serializers.py"]
  if band = .accounts && apps.contains "core" then modules "core"
  else if band ≠ .administration && apps.contains "finance" then modules "finance"
  else if apps.contains "operations" then modules "operations"
  else []

def usualTemplates (band : Band) : List String :=
  if band = .accounts then ["login.html", "register.html"] else ["dashboard.html", "report.html"]

def usualComponents : Band → List String
  | .accounts => ["LoginForm", "RegisterForm", "UserProfile"]
  | .business => ["Dashboard", "DataTable", "FilterPanel"]
  | .administration => ["AdminPanel", "Analytics", "ExportDialog"]

def usualSettings (number : Nat) (spec : Specification) : List String :=
  if number ≤ 2 && spec.authentication == .jwt then ["JWT_SECRET_KEY", "JWT_EXPIRATION_DELTA"]
  else if 3 ≤ number && number ≤ 4 && spec.database == "postgresql" then ["DATABASES", "DATABASE_URL"]
  else []

/-- What a target delivers when nothing else is said. -/
def usual (number : Nat) (spec : Specification) : Delivery :=
  let band := Band.ofNumber number
  let hasFinance := spec.apps.contains "finance"
  let usesReact := spec.frontendFramework == "react"
  { models := share spec.modelNames number
    views := usualViews band hasFinance
    urls := usualUrls band hasFinance
    files := usualFiles band spec.apps
    templates := if usesReact then [] else usualTemplates band
    components := if usesReact then usualComponents band else []
    settings := usualSettings number spec }

/-- What a target delivers: what is asked for, or else the usual. -/
def resolve (number : Nat) (asked : Delivery) (spec : Specification) : Delivery :=
  if asked.isEmpty then usual number spec else asked

def ruleName (number : Nat) (what : String) : String := s!"validate_target_{number}_{what}"

/-- Where models are declared. -/
def modelFiles : List String := ["models.py", "models/*.py"]

/-- A model is checked with its fields where the blueprint declares them. -/
def modelCheck (spec : Specification) (model : String) : CheckSpec :=
  match spec.model? model with
  | some declared =>
    if declared.fields.isEmpty then .modelClasses ⟨modelFiles, [model]⟩
    else .modelFields ⟨modelFiles, model, declared.fields⟩
  | none => .modelClasses ⟨modelFiles, [model]⟩

def lowered (name : String) : String := String.ofList (Text.lower name.toList)

def modelRule (number : Nat) (spec : Specification) (model : String) : Rule :=
  ⟨ruleName number ("model_" ++ lowered model), s!"Target {number}: model {model} and its fields", .high, .models,
    modelCheck spec model⟩

/-- The relations that start at one of the models. -/
def relationsOf (spec : Specification) (models : List String) : List Check.Relation :=
  models.flatMap fun model => ((spec.relationships.get? model).getD []).map (Check.Relation.mk model)

/-- The models that belong to a tenant by their base. -/
def tenantModels (spec : Specification) (models : List String) : List String :=
  models.filter fun name =>
    (spec.model? name).any fun model => !model.isAbstract && model.derivesFrom spec.baseModelClass

def modelRules (number : Nat) (spec : Specification) (models : List String) : List Rule :=
  let base := spec.baseModelClass
  models.map (modelRule number spec) ++
  Rule.given (1 < models.length && !(relationsOf spec models).isEmpty)
    ⟨ruleName number "model_relationships", s!"Target {number}: relationships between the target models", .medium,
      .models, .modelRelationships ⟨modelFiles, relationsOf spec models⟩⟩ ++
  Rule.given (spec.multiTenancy && !base.isEmpty && !(tenantModels spec models).isEmpty)
    ⟨ruleName number "tenant_models", s!"Target {number}: models are scoped by {base}", .high, .models,
      .tenantBaseModel ⟨modelFiles, base, "tenant", tenantModels spec models⟩⟩

/-- Any of the three ways to define a component. -/
def componentRequirement (name : String) : Requirement :=
  ⟨s!"Component {name} is defined", [s!"function {name}", s!"const {name}", s!"class {name}"], .medium⟩

/-- Tests mention a thing by its name as it stands or in lower case. -/
def testRequirement (name : String) : Requirement := ⟨s!"Tests exercise {name}", [name, lowered name], .high⟩

/-- The rules of a target that delivers these things. -/
def deliveryRules (number : Nat) (delivery : Delivery) (spec : Specification) : List Rule :=
  let tested := delivery.models ++ delivery.views
  Rule.given (!delivery.files.isEmpty)
    ⟨ruleName number "files", s!"Target {number}: delivered files exist", .high, .layout,
      .filePatterns ⟨delivery.files, "missing_target_file", .high⟩⟩ ++
  modelRules number spec delivery.models ++
  Rule.given (!delivery.views.isEmpty)
    ⟨ruleName number "api_views", s!"Target {number}: views are implemented", .high, .api,
      .definitionsPresent ⟨["views.py", "viewsets.py", "views/*.py"], delivery.views, "missing_target_view", .high⟩⟩ ++
  Rule.given (!delivery.urls.isEmpty)
    ⟨ruleName number "urls", s!"Target {number}: routes are registered", .medium, .api,
      .textPresent ⟨["urls.py"], "missing_target_url",
        Requirement.literal delivery.urls (fun url => s!"Route {url} is registered") .medium⟩⟩ ++
  Rule.given (!delivery.templates.isEmpty)
    ⟨ruleName number "templates", s!"Target {number}: templates exist", .medium, .content,
      .filePatterns ⟨delivery.templates, "missing_target_template", .medium⟩⟩ ++
  Rule.given (!delivery.components.isEmpty)
    ⟨ruleName number "components", s!"Target {number}: frontend components exist", .medium, .content,
      .textPresent ⟨["*.tsx", "*.jsx"], "missing_target_component", delivery.components.map componentRequirement⟩⟩ ++
  Rule.given (!tested.isEmpty)
    ⟨ruleName number "tests", s!"Target {number}: tests cover the delivered models and views", .high, .content,
      .textPresent ⟨["test*.py", "*_test.py"], "missing_target_tests", tested.map testRequirement⟩⟩ ++
  Rule.given (!delivery.models.isEmpty)
    ⟨ruleName number "migrations", s!"Target {number}: models have migrations", .medium, .models,
      .migrations ⟨[], ["CreateModel"], false⟩⟩ ++
  Rule.given (!delivery.settings.isEmpty)
    ⟨ruleName number "settings", s!"Target {number}: settings are configured", .medium, .content,
      .textPresent ⟨["settings.py"], "missing_target_setting",
        Requirement.literal delivery.settings (fun key => s!"{key} is configured") .medium⟩⟩

/-- The rules of a target. -/
def rules (number : Nat) (asked : Delivery) (spec : Specification) : List Rule :=
  deliveryRules number (resolve number asked spec) spec

end Plumbline.Target
