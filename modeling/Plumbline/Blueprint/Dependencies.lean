import Plumbline.Blueprint.Document
import Plumbline.Distinct
import Plumbline.Json.Record
import Plumbline.Text.Case

namespace Plumbline

/-- Declared packages in the order they are first named, and the versions they are pinned to. -/
structure Dependencies where
  backend : List String
  frontend : List String
  pinned : NameMap String

namespace Dependencies

open Text

def none : Dependencies := ⟨[], [], .empty⟩

def toJson (dependencies : Dependencies) : Json := .object [
  ("backend", .strings dependencies.backend), ("frontend", .strings dependencies.frontend),
  ("pinned", Json.table Json.string dependencies.pinned)]

def ofJson? (v : Json) : Option Dependencies := do
  let [backend, frontend, pinned] ← v.record? ["backend", "frontend", "pinned"] | .none
  return {
    backend := ← backend.withDefault (Json.list? Json.text?) []
    frontend := ← frontend.withDefault (Json.list? Json.text?) []
    pinned := ← pinned.withDefault (Json.table? Json.text?) .empty }

/-- The packages of a backend that are kept track of. -/
def knownBackend : List String := [
  "django", "djangorestframework", "psycopg2-binary", "django-environ", "celery", "redis", "gunicorn", "structlog",
  "django-filter", "djangorestframework-simplejwt", "pytest", "pytest-django", "factory-boy", "pytest-cov", "black",
  "ruff", "pre-commit"]

def isNameChar (c : Char) : Bool := isWord c || c == '-'

/-- Signs and quotes that may stand in front of a version. -/
def isVersionLead (c : Char) : Bool := "\x22^~>=".toList.contains c

/-- Reads ASCII digits and dots from a digit on. -/
def readVersion (s : List Char) : Option (List Char × List Char) :=
  if (s.head?.map Char.isDigit).getD false then some? (fun c => c.isDigit || c == '.') s else .none

/-- Reads a line that pins a package by an equals sign. White space and quotes may stand around the name. -/
def readPinLine : Reader (List Char × List Char) := fun before s => do
  if !atLineStart before then .none
  let s := trimStart s
  let s := (after? ['\x22'] s).getD s
  if !(s.head?.map isWord).getD false then .none
  let (name, s) ← some? isNameChar s
  let s := (after? ['\x22'] s).getD s
  let s ← after? ['='] (trimStart s)
  let (version, s) ← readVersion ((trimStart s).dropWhile isVersionLead)
  return ((name, version), s)

/-- Reads a mention that pins a package by an equals sign or a colon. The name begins with a small ASCII letter. -/
def readPinMention : Reader (List Char × List Char) := fun _ s => do
  if !(s.head?.map fun c => 'a' ≤ c && c ≤ 'z').getD false then .none
  let (name, s) ← some? isNameChar s
  if name.length < 2 then .none
  let (c :: s) := trimStart s | .none
  if c != '=' && c != ':' then .none
  let (version, s) ← readVersion ((trimStart s).dropWhile isVersionLead)
  return ((name, version), s)

/-- Reads the table of dependencies of a package file, and returns what stands between its braces. -/
def readTable : Reader (List Char) := fun _ s => do
  let s ← after? "\x22dependencies\x22".toList s
  let s ← after? [':'] (trimStart s)
  let s ← after? ['\x7b'] (trimStart s)
  let inside := s.takeWhile (· != '\x7d')
  let rest ← after? ['\x7d'] (s.drop inside.length)
  return (inside, rest)

/-- Reads an entry of such a table: a quoted name and a version in quotes. -/
def readEntry : Reader (List Char × List Char) := fun _ s => do
  let (name, s) ← some? (· != '\x22') (← after? ['\x22'] s)
  let s ← after? ['\x22'] s
  let s ← after? [':'] (trimStart s)
  let s ← after? ['\x22'] (trimStart s)
  let (version, s) ← readVersion (s.dropWhile fun c => c == '^' || c == '~')
  return ((name, version), s)

/-- Records a package of the backend if it is a known one. -/
def addBackend (dependencies : Dependencies) (pin : List Char × List Char) : Dependencies :=
  let name := String.ofList (lower pin.1)
  if knownBackend.contains name then
    { dependencies with
      backend := Distinct.add dependencies.backend name
      pinned := dependencies.pinned.insert name (String.ofList (dropRightWhile (· == '.') pin.2)) }
  else dependencies

def addFrontend (dependencies : Dependencies) (pin : List Char × List Char) : Dependencies :=
  { dependencies with
    frontend := Distinct.add dependencies.frontend (String.ofList pin.1)
    pinned := dependencies.pinned.insert (String.ofList pin.1) (String.ofList pin.2) }

/-- The dependencies of a text: those of its TOML blocks, those it mentions, and those of its JSON blocks. -/
def find (text : String) (document : Document) : Dependencies :=
  let inBlocks := (document.blocksIn "toml").flatMap fun block => findAll readPinLine .none block.text.toList
  let mentioned := findAll readPinMention .none text.toList
  let frontend := (document.blocksIn "json").flatMap fun block =>
    (findAll readTable .none block.text.toList).flatMap (findAll readEntry .none)
  frontend.foldl addFrontend ((inBlocks ++ mentioned).foldl addBackend .none)

end Dependencies

end Plumbline
