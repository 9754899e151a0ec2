import Plumbline.Requirement
import Plumbline.Site
import Plumbline.Source.Calls
import Plumbline.Source.Classes

namespace Plumbline.Check

/-- A class and the file it stands in. -/
structure FoundClass where
  file : String
  declaration : Source.Class
deriving DecidableEq, Repr

/-- The classes of the files that match any of the patterns, in order. -/
def classesIn (site : Site) (patterns : List String) : Except CheckError (List FoundClass) := do
  return (← site.filesMatching patterns).flatMap fun file =>
    match file.text with
    | some text => (Source.classes text).map fun declaration => ⟨file.path, declaration⟩
    | none => []

def findClass? (classes : List FoundClass) (name : String) : Option FoundClass :=
  classes.find? (·.declaration.name == name)

def missingModel (model : String) (patterns : List String) : Issue :=
  .make (", ".intercalate patterns) "missing_model" s!"Model {model} is not defined" s!"class {model} must be declared"
    "Class not found" .high

/-- Where models are looked for unless a check says otherwise. -/
def defaultModelFiles : List String := ["models.py", "models/*.py"]

/-- Models that must be declared. -/
structure ModelClasses where
  files : List String
  models : List String
deriving DecidableEq, Repr

def ModelClasses.run (check : ModelClasses) (site : Site) : Except CheckError (List Issue) := do
  let classes ← classesIn site check.files
  return check.models.filterMap fun model =>
    if (findClass? classes model).isSome then none else some (missingModel model check.files)

def ModelClasses.members (check : ModelClasses) : List (String × Json) :=
  [("files", .strings check.files), ("models", .strings check.models)]

def ModelClasses.ofJson? (v : Json) : Option ModelClasses := do
  let [files, models] ← v.record? ["files", "models"] | none
  return {
    files := ← files.withDefault (Json.list? Json.text?) defaultModelFiles
    models := ← models.required (Json.list? Json.text?) }

/-- Fields that one model must declare. -/
structure ModelFields where
  files : List String
  model : String
  fields : List String
deriving DecidableEq, Repr

/-- The issue of a field that a class does not declare. -/
def fieldIssue? (found : FoundClass) (field : String) : Option Issue :=
  let model := found.declaration.name
  if Source.declaresField found.declaration.body field then none
  else some (.make found.file "missing_model_field" s!"{model}.{field} is not declared"
    s!"Field {field} must be declared on {model}" "Field not found" .medium)

def ModelFields.run (check : ModelFields) (site : Site) : Except CheckError (List Issue) := do
  let classes ← classesIn site check.files
  let model := check.model
  match findClass? classes model with
  | none => return [missingModel model check.files]
  | some found => return check.fields.filterMap (fieldIssue? found)

def ModelFields.members (check : ModelFields) : List (String × Json) :=
  [("files", .strings check.files), ("model", .string check.model), ("fields", .strings check.fields)]

def ModelFields.ofJson? (v : Json) : Option ModelFields := do
  let [files, model, fields] ← v.record? ["files", "model", "fields"] | none
  return {
    files := ← files.withDefault (Json.list? Json.text?) defaultModelFiles
    model := ← model.required Json.text?
    fields := ← fields.required (Json.list? Json.text?) }

/-- A relationship of one model to another. -/
structure Relation where
  model : String
  target : String
deriving DecidableEq, Repr

def Relation.toJson (relation : Relation) : Json :=
  .object [("model", .string relation.model), ("target", .string relation.target)]

def Relation.ofJson? (v : Json) : Option Relation := do
  let [model, target] ← v.record? ["model", "target"] | none
  return { model := ← model.required Json.text?, target := ← target.required Json.text? }

/-- Relationships that models must hold. -/
structure ModelRelationships where
  files : List String
  relations : List Relation
deriving DecidableEq, Repr

/-- A missing model is the business of another rule. -/
def relationIssue? (classes : List FoundClass) (relation : Relation) : Option Issue :=
  let model := relation.model
  let target := relation.target
  match findClass? classes model with
  | none => none
  | some found =>
    if Source.relatesTo found.declaration.body target then none
    else some (.make found.file "missing_model_relationship" s!"{model} has no relationship to {target}"
      s!"{model} must reference {target}" "No ForeignKey/OneToOneField/ManyToManyField to target" .medium)

def ModelRelationships.run (check : ModelRelationships) (site : Site) : Except CheckError (List Issue) := do
  let classes ← classesIn site check.files
  return check.relations.filterMap (relationIssue? classes)

def ModelRelationships.members (check : ModelRelationships) : List (String × Json) :=
  [("files", .strings check.files), ("relations", .array (check.relations.map Relation.toJson))]

def ModelRelationships.ofJson? (v : Json) : Option ModelRelationships := do
  let [files, relations] ← v.record? ["files", "relations"] | none
  return {
    files := ← files.withDefault (Json.list? Json.text?) defaultModelFiles
    relations := ← relations.required (Json.list? Relation.ofJson?) }

/-- An abstract base model that carries the tenant, and the models that must inherit from it. -/
structure TenantBaseModel where
  files : List String
  baseClass : String
  tenantField : String
  models : List String
deriving DecidableEq, Repr

/-- The issues of the base model itself. -/
def TenantBaseModel.baseIssues (check : TenantBaseModel) (classes : List FoundClass) : List Issue :=
  let base := check.baseClass
  let field := check.tenantField
  match findClass? classes base with
  | none => [.make (", ".intercalate check.files) "missing_base_model" s!"{base} is not defined"
      s!"Abstract {base} must be defined" "Class not found" .high]
  | some found =>
    (if Source.declaresField found.declaration.body field then []
      else [.make found.file "missing_model_field" s!"{base} has no {field} field" s!"{base} must declare {field}"
        "Field not found" .high]) ++
    if Source.isAbstract found.declaration.body.toList then []
    else [.make found.file "base_model_not_abstract" s!"{base} is not abstract" "Meta.abstract = True"
      "Concrete base model" .medium]

/-- The issue of a model that is declared without the base. -/
def TenantBaseModel.modelIssue? (base : String) (classes : List FoundClass) (model : String) : Option Issue :=
  match findClass? classes model with
  | none => none
  | some found =>
    let bases := found.declaration.bases
    if Text.contains base.toList bases.toList then none
    else some (.make found.file "model_not_tenant_scoped" s!"{model} does not inherit {base}" s!"class {model}({base})"
      s!"class {model}({bases})" .medium)

def TenantBaseModel.run (check : TenantBaseModel) (site : Site) : Except CheckError (List Issue) := do
  let classes ← classesIn site check.files
  return check.baseIssues classes ++ check.models.filterMap (modelIssue? check.baseClass classes)

def TenantBaseModel.members (check : TenantBaseModel) : List (String × Json) :=
  [("files", .strings check.files), ("base_class", .string check.baseClass),
    ("tenant_field", .string check.tenantField), ("models", .strings check.models)]

def TenantBaseModel.ofJson? (v : Json) : Option TenantBaseModel := do
  let [files, baseClass, tenantField, models] ← v.record? ["files", "base_class", "tenant_field", "models"] | none
  return {
    files := ← files.withDefault (Json.list? Json.text?) defaultModelFiles
    baseClass := ← baseClass.required Json.text?
    tenantField := ← tenantField.required Json.text?
    models := ← models.required (Json.list? Json.text?) }

/-- Applications that must have migrations, operations that some migration must perform, and whether code that
migrations run must be reversible. -/
structure Migrations where
  apps : List String
  operations : List String
  requireReversible : Bool
deriving DecidableEq, Repr

def migrationFiles (site : Site) : Except CheckError (List FoundFile) := do
  return (← site.filesMatching ["migrations/*.py"]).filter (·.name != "__init__.py")

/-- The issues of the calls in one migration that cannot be undone. -/
def irreversibleIssues (path text : String) : List Issue :=
  ((Source.runCalls text).filter (!Source.isReversible ·)).map fun call =>
    let arguments := String.ofList (Text.trim call.toList)
    .make path "irreversible_migration" s!"{path}: RunPython without reverse_code"
      "RunPython(forward, reverse_code=backward)" s!"RunPython({arguments})" .high

def Migrations.run (check : Migrations) (site : Site) : Except CheckError (List Issue) := do
  let files ← migrationFiles site
  let apps := check.apps.filterMap fun app =>
    if files.any fun file => site.parentName? file.names.dropLast == some app then none
    else some (Issue.make s!"{app}/migrations/" "missing_migrations" s!"Application {app} has no migrations"
      s!"{app}/migrations/ must contain at least one migration" "No migration files" .medium)
  let texts := files.filterMap fun file => file.text.map (file.path, ·)
  let operations := check.operations.filterMap fun operation =>
    if texts.any fun (_, text) => Text.contains operation.toList text.toList then none
    else some (Issue.make "migrations/" "missing_migration_operation" s!"No migration performs {operation}"
      s!"A migration must contain migrations.{operation}" "Operation not found" .medium)
  let calls := if check.requireReversible then texts.flatMap fun (path, text) => irreversibleIssues path text else []
  return apps ++ operations ++ calls

def Migrations.members (check : Migrations) : List (String × Json) :=
  [("apps", .strings check.apps), ("operations", .strings check.operations),
    ("require_reversible", .bool check.requireReversible)]

def Migrations.ofJson? (v : Json) : Option Migrations := do
  let [apps, operations, requireReversible] ← v.record? ["apps", "operations", "require_reversible"] | none
  return {
    apps := ← apps.required (Json.list? Json.text?)
    operations := ← operations.required (Json.list? Json.text?)
    requireReversible := ← requireReversible.required Json.flag? }

end Plumbline.Check
