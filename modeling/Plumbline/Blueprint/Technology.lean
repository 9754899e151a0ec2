import Plumbline.Distinct
import Plumbline.Json.Record
import Plumbline.Text.Case
import Plumbline.Text.Search

namespace Plumbline

/-- How a user proves who they are. -/
inductive Authentication where
  | jwt
  | token
  | session
deriving DecidableEq, Repr

namespace Authentication

def all : List Authentication := [.jwt, .token, .session]

def label : Authentication → String
  | .jwt => "JWT"
  | .token => "Token"
  | .session => "Session"

/-- The name it is stored by. -/
def key : Authentication → String
  | .jwt => "Jwt"
  | .token => "Token"
  | .session => "Session"

def toJson (a : Authentication) : Json := .string a.key

def ofJson? (v : Json) : Option Authentication := v.word?.bind fun s => all.find? (·.key == s)

end Authentication

namespace Technology

open Text

def frameworks : List String := ["django", "fastapi", "flask", "express", "rails", "spring"]

def frontendFrameworks : List String := ["react", "vue", "angular", "svelte"]

def databases : List String := ["postgresql", "mysql", "sqlite", "mongodb"]

/-- Whether a word occurs with no letter or number on either side. -/
def hasWord (word : List Char) (before : Option Char) : List Char → Bool
  | [] => false
  | c :: s =>
    (!before.any isAlphanumeric && match after? word (c :: s) with
      | some rest => !rest.head?.any isAlphanumeric
      | none => false) ||
    hasWord word (some c) s

/-- Whether a text, given in lower case, mentions a phrase. -/
def mentions (text : List Char) (phrase : String) : Bool := contains phrase.toList text

/-- The first of some names that occurs as a word; empty if none does. -/
def firstWord (text : List Char) (names : List String) : String :=
  (names.find? fun name => hasWord name.toList none text).getD ""

/-- The style of the architecture, empty if a text does not tell. -/
def architecture (text : List Char) : String :=
  if mentions text "monolith" || mentions text "monolito" then "monolith"
  else if mentions text "microservice" then "microservices"
  else ""

/-- The framework of the tests, empty if a text does not tell. -/
def testing (text : List Char) : String :=
  if mentions text "pytest" then "pytest" else if mentions text "vitest" then "vitest" else ""

/-- JSON web tokens come before other tokens, and those before sessions. -/
def authentication (text : List Char) : Authentication :=
  if mentions text "jwt" then .jwt else if mentions text "token" then .token else .session

/-- Whether several tenants share the system. -/
def isMultiTenant (text : List Char) : Bool := mentions text "tenant"

/-- The class that every model of a tenant derives from. -/
def tenantBase : String := "BaseTenantModel"

/-- Whether a text mentions a version of an interface in a path. -/
def mentionsVersion : List Char → Bool
  | [] => false
  | c :: s =>
    (match after? "api/v".toList ((c :: s).take 5 |>.map foldChar) with
      | some _ => ((s.drop 4).head?.map isDecimal).getD false
      | none => false) ||
    mentionsVersion s

/-- Marks of the style of an interface. -/
def interfaceStyles (text : String) : List String :=
  let lowered := lower text.toList
  (if hasWord "rest".toList none lowered || mentions lowered "restful" then ["REST"] else []) ++
  (if mentionsVersion text.toList then ["versioned"] else []) ++
  (if contains "DRF".toList text.toList || mentions lowered "django rest framework" then ["DRF"] else [])

def integrationHints : List String :=
  ["github actions", "gitlab ci", "jenkins", "docker build", "docker push", "deploy"]

/-- Hints at continuous integration. -/
def integration (text : List Char) : List String := integrationHints.filter (mentions text)

end Technology

end Plumbline
