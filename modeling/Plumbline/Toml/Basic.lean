import Plumbline.Json.Basic

namespace Plumbline

/-- A TOML value. Of a date or time only its presence matters. -/
inductive Toml where
  | string (s : String)
  | integer (n : Int)
  | float (x : Float)
  | bool (b : Bool)
  | moment
  | array (items : List Toml)
  | table (entries : List (String × Toml))

namespace Toml

/-- What is stored under a key of a table. -/
def get? (key : String) : Toml → Option Toml
  | .table entries => entries.lookup key
  | _ => none

def text? : Toml → Option String
  | .string s => some s
  | _ => none

/-- The key by which a table stands for a date or time. -/
def momentKey : String := "$__toml_private_datetime"

mutual
/-- The same value in JSON's terms, where a date or time is an object of one member that no record knows. -/
def toJson : Toml → Json
  | .string s => .string s
  | .integer n => .number (if n < 0 then .negative n.natAbs else .natural n.toNat)
  | .float x => .float x
  | .bool b => .bool b
  | .moment => .object [(momentKey, .string "")]
  | .array items => .array (itemsToJson items)
  | .table entries => .object (entriesToJson entries)

def itemsToJson : List Toml → List Json
  | [] => []
  | v :: rest => v.toJson :: itemsToJson rest

def entriesToJson : List (String × Toml) → List (String × Json)
  | [] => []
  | (key, v) :: rest => (key, v.toJson) :: entriesToJson rest
end

/-- How a table came into being, which decides what may still be added to it. -/
inductive Origin where
  /-- Under a header of its own, or as the document itself. -/
  | header
  /-- As a step of the path in some header. -/
  | passed
  /-- As a step of a dotted key. -/
  | dotted
deriving DecidableEq

/-- A document under construction. -/
inductive Node where
  | value (v : Toml)
  | table (origin : Origin) (entries : List (String × Node))
  /-- The tables of one repeated header, newest first. -/
  | tables (newest : List (String × Node)) (older : List (List (String × Node)))

abbrev Entries := List (String × Node)

/-- Stores under a key, in the place of what was there. -/
def put (key : String) (node : Node) : Entries → Entries
  | [] => [(key, node)]
  | (other, old) :: rest => if other = key then (key, node) :: rest else (other, old) :: put key node rest

mutual
def Node.toToml : Node → Toml
  | .value v => v
  | .table _ entries => .table (finish entries)
  | .tables newest older => .array (finishAll older [.table (finish newest)])

/-- Older tables in front of `later`, which are in order already. -/
def finishAll : List (List (String × Node)) → List Toml → List Toml
  | [], later => later
  | entries :: older, later => finishAll older (.table (finish entries) :: later)

def finish : List (String × Node) → List (String × Toml)
  | [] => []
  | (key, node) :: rest => (key, node.toToml) :: finish rest
end

/-- What is left without a key. -/
def drop (key : String) (entries : Entries) : Entries := entries.filter (·.1 != key)

/-- Stores the value of a dotted key. A table with a header takes no part in it, one that a header merely passed takes
no value of its own, and neither does the newest of repeated tables. -/
def addDotted (origin : Origin) : List String → Toml → Entries → Option Entries
  | [], _, _ => none
  | [key], v, entries =>
    if (entries.lookup key).isSome || origin = .passed then none else some (put key (.value v) entries)
  | key :: path, v, entries => match entries.lookup key with
    | none => (addDotted .dotted path v []).map fun inner => put key (.table .dotted inner) entries
    | some (.table .header _) => none
    | some (.table origin inner) =>
      (addDotted origin path v inner).map fun inner => put key (.table origin inner) entries
    | some (.tables newest older) =>
      (addDotted .passed path v newest).map fun newest => put key (.tables newest older) entries
    | some (.value _) => none

/-- Works on the table a header's path leads to. Missing steps are made, and of repeated tables the newest is meant. -/
def within (work : Origin → Entries → Option Entries) : List String → Origin → Entries → Option Entries
  | [], origin, entries => work origin entries
  | key :: path, _, entries => match entries.lookup key with
    | none => (within work path .passed []).map fun inner => put key (.table .passed inner) entries
    | some (.table origin inner) =>
      (within work path origin inner).map fun inner => put key (.table origin inner) entries
    | some (.tables newest older) =>
      (within work path .header newest).map fun newest => put key (.tables newest older) entries
    | some (.value _) => none

/-- Opens the table of a header, which becomes the last one. A table has one header at most, and dotted keys leave none
for it. -/
def openTable (key : String) (_ : Origin) (entries : Entries) : Option Entries :=
  match entries.lookup key with
  | none => some (put key (.table .header []) entries)
  | some (.table .passed inner) => some (put key (.table .header inner) (drop key entries))
  | _ => none

/-- Opens one more table of a repeated header. -/
def openRepeated (key : String) (_ : Origin) (entries : Entries) : Option Entries :=
  match entries.lookup key with
  | none => some (put key (.tables [] []) entries)
  | some (.tables newest older) => some (put key (.tables [] (newest :: older)) entries)
  | _ => none

end Toml

end Plumbline
