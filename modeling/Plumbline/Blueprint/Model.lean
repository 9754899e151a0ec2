import Plumbline.Distinct
import Plumbline.Json.Record
import Plumbline.Source.Classes

namespace Plumbline

/-- How many records of one model belong to how many of another. -/
inductive Cardinality where
  | foreignKey
  | oneToOne
  | manyToMany
deriving DecidableEq, Repr

namespace Cardinality

def all : List Cardinality := [.foreignKey, .oneToOne, .manyToMany]

def label : Cardinality → String
  | .foreignKey => "ForeignKey"
  | .oneToOne => "OneToOne"
  | .manyToMany => "ManyToMany"

/-- The constructor of such a field. -/
def constructor : Cardinality → String
  | .foreignKey => "ForeignKey"
  | .oneToOne => "OneToOneField"
  | .manyToMany => "ManyToManyField"

def ofConstructor? (name : String) : Option Cardinality := all.find? (·.constructor == name)

def toJson (c : Cardinality) : Json := .string c.label

def ofJson? (v : Json) : Option Cardinality := (v.wordIn? .tagged).bind fun s => all.find? (·.label == s)

end Cardinality

inductive FieldKind where
  | plain (constructor : String)
  | relation (cardinality : Cardinality) (target : String)
deriving DecidableEq, Repr

namespace FieldKind

def toJson : FieldKind → Json
  | .plain constructor => .object [("kind", .string "plain"), ("constructor", .string constructor)]
  | .relation cardinality target =>
    .object [("kind", .string "relation"), ("relation", cardinality.toJson), ("target", .string target)]

def ofJson? (v : Json) : Option FieldKind := do
  match ← v.tagged? "kind" with
  | ("plain", v) =>
    let [constructor] ← v.record? ["constructor"] | none
    return .plain (← constructor.required Json.text?)
  | ("relation", v) =>
    let [cardinality, target] ← v.record? ["relation", "target"] | none
    return .relation (← cardinality.required Cardinality.ofJson?) (← target.required Json.text?)
  | _ => none

end FieldKind

/-- A data model: a class with its fields, the models it refers to, and its public methods. -/
structure Model where
  name : String
  bases : String
  fields : List String
  fieldKinds : NameMap FieldKind
  relations : List String
  methods : List String
  isAbstract : Bool

namespace Model

def empty : Model := ⟨"", "", [], .empty, [], [], false⟩

def toJson (model : Model) : Json := .object [
  ("name", .string model.name), ("bases", .string model.bases), ("fields", .strings model.fields),
  ("field_kinds", Json.table FieldKind.toJson model.fieldKinds), ("relations", .strings model.relations),
  ("methods", .strings model.methods), ("is_abstract", .bool model.isAbstract)]

def ofJson? (v : Json) : Option Model := do
  let [name, bases, fields, fieldKinds, relations, methods, isAbstract] ←
    v.record? ["name", "bases", "fields", "field_kinds", "relations", "methods", "is_abstract"] | none
  return {
    name := ← name.withDefault Json.text? ""
    bases := ← bases.withDefault Json.text? ""
    fields := ← fields.withDefault (Json.list? Json.text?) []
    fieldKinds := ← fieldKinds.withDefault (Json.table? FieldKind.ofJson?) .empty
    relations := ← relations.withDefault (Json.list? Json.text?) []
    methods := ← methods.withDefault (Json.list? Json.text?) []
    isAbstract := ← isAbstract.withDefault Json.flag? false }

open Text

/-- Whether a class is one of the bases, by its whole name. -/
def derivesFrom (model : Model) (base : String) : Bool :=
  (split (· == ',') model.bases.toList).any fun item => trim item == base.toList

/-- The value of an argument given by the keyword of the target. -/
def toArgument? (argument : List Char) : Option (List Char) :=
  (after? "to".toList argument).bind fun s => after? ['='] (trimStart s)

/-- The target among the arguments of a relationship: the first one if it is positional, or else the one given by
keyword. It stands in quotes or bare. -/
def targetOf? (arguments : List Char) : Option String := do
  let parts := ((split (· == ',') arguments).map trim).filter (!·.isEmpty)
  let first ← parts.head?
  let value ← if first.contains '=' then (parts.findSome? toArgument?).map trim else some first
  let target := stripWhile isQuote value
  if !target.isEmpty && target.all fun c => isAlphanumeric c || c == '_' || c == '.' then some (String.ofList target)
  else none

/-- A field as it is declared: its name, its constructor, and the arguments up to the first closing parenthesis. -/
structure Declaration where
  field : String
  constructor : String
  arguments : List Char

/-- Reads a field declaration at the start of a line. -/
def readDeclaration : Reader Declaration := fun before s => do
  if !atLineStart before then none
  let (field, s) ← some? isWord (s.dropWhile fun c => c == ' ' || c == '\t')
  let s ← after? ['='] (trimStart s)
  let s ← after? "models.".toList (trimStart s)
  let (constructor, s) ← some? isWord s
  let s ← after? ['('] (trimStart s)
  return (⟨String.ofList field, String.ofList constructor, s.takeWhile (· != ')')⟩, s.dropWhile (· != ')'))

/-- Reads the head of a method, and returns its name. -/
def readMethod : Reader String := fun _ s => do
  let (_, s) ← some? isBlank (← after? "def".toList s)
  let (name, s) ← some? isWord s
  let s ← after? ['('] (trimStart s)
  return (String.ofList name, s)

def Declaration.kind (declaration : Declaration) : FieldKind :=
  match Cardinality.ofConstructor? declaration.constructor, targetOf? declaration.arguments with
  | some cardinality, some target => .relation cardinality target
  | _, _ => .plain declaration.constructor

def FieldKind.target? : FieldKind → Option String
  | .plain _ => none
  | .relation _ target => some target

/-- Takes one more field. The last kind of a field holds. -/
def addField (model : Model) (declaration : Declaration) : Model :=
  { model with
    fields := Distinct.add model.fields declaration.field
    fieldKinds := model.fieldKinds.insert declaration.field declaration.kind
    relations := Distinct.addAll model.relations (FieldKind.target? declaration.kind).toList }

/-- The model of a class with this name, these bases and this body. -/
def ofClass (name bases body : String) : Model :=
  let declarations := findAll readDeclaration none body.toList
  let methods := (findAll readMethod none body.toList).filter fun method => method.toList.head? != some '_'
  declarations.foldl addField
    { Model.empty with
      name := name
      bases := bases
      methods := Distinct.ofList methods
      isAbstract := Source.isAbstract body.toList }

/-- A class that is being read: its header and the lines of its body, last first. -/
structure OpenClass where
  name : List Char
  bases : List Char
  lines : List (List Char)

/-- The model of a class, if its bases or its body mention models. -/
def OpenClass.model? (found : OpenClass) : Option Model :=
  let body := ['\n'].intercalate found.lines.reverse
  if contains "models.".toList body || contains "Model".toList body || contains "Model".toList found.bases then
    some (ofClass (String.ofList found.name) (String.ofList found.bases) (String.ofList body))
  else none

/-- Puts a model in the place of an older one of its name, or else at the end. -/
def put (models : List Model) (model : Model) : List Model :=
  if models.any (·.name == model.name) then models.map fun other => if other.name = model.name then model else other
  else models ++ [model]

/-- The models found so far and the class that is open. -/
structure Scan where
  found : List Model
  current : Option OpenClass

/-- Closes the open class. -/
def Scan.flush (scan : Scan) : Scan := ⟨(scan.current.bind OpenClass.model?).toList.foldl put scan.found, none⟩

/-- A header with a base list opens a class, a comment at the margin ends one, and other lines are its body. -/
def Scan.step (scan : Scan) (line : List Char) : Scan :=
  match Source.classHeader? line with
  | some (name, some bases) => { scan.flush with current := some ⟨name, bases, []⟩ }
  | _ =>
    if line.head? = some '#' then scan.flush
    else { scan with current := scan.current.map fun found => { found with lines := line :: found.lines } }

/-- The models that a piece of code declares. A later declaration takes the place of an earlier one. -/
def inCode (code : String) : List Model := ((lines code.toList).foldl Scan.step ⟨[], none⟩).flush.found

end Model

end Plumbline
