import Plumbline.Json.Basic
import Plumbline.NameMap

namespace Plumbline

namespace Json

/-- What a record holds in one of its fields. -/
inductive Slot where
  | present (v : Json)
  /-- The record names its fields and leaves this one out. -/
  | absent
  /-- The record lists its fields in order and ends before this one. -/
  | cut

/-- Where a value stands, which decides how freely records and names may be written. -/
inductive Manner where
  /-- In a JSON text. -/
  | plain
  /-- Among the parameters of a value that says which kind it is of. -/
  | tagged
  /-- In a TOML text. -/
  | toml

/-- Whether an array that stands for a record may have more items than the record has fields. -/
def Manner.allowsMore : Manner → Bool
  | .toml => true
  | _ => false

/-- Whether a value is nothing, where an object gives a name nothing. -/
def Manner.isNothing : Manner → Json → Bool
  | .plain, .null => true
  | .tagged, .null => true
  | .tagged, .object [] => true
  | .toml, .object [] => true
  | .toml, .array [] => true
  | _, _ => false

/-- The fields of a record, which is an object or else an array in the order of the keys. Further members of an object
do not matter; a key given twice is a fault. -/
def recordIn? (manner : Manner) (keys : List String) : Json → Option (List Slot)
  | .object members => keys.mapM fun key =>
    match members.filter (·.1 == key) with
    | [] => some .absent
    | [(_, v)] => some (.present v)
    | _ => none
  | .array items =>
    if keys.length < items.length && !manner.allowsMore then none
    else some ((items.take keys.length).map .present ++ List.replicate (keys.length - items.length) .cut)
  | _ => none

def record? (keys : List String) (v : Json) : Option (List Slot) := v.recordIn? .plain keys

/-- A value that says which of several kinds it is of: the kind, and the record of that kind. All of it is looked
at. -/
def tagged? (key : String) : Json → Option (String × Json)
  | .object members =>
    if !haveReadable members then none
    else match members.filter (·.1 == key) with
      | [(_, .string kind)] => some (kind, .object (members.filter (·.1 != key)))
      | _ => none
  | .array (.string kind :: items) => if areReadable items then some (kind, .array items) else none
  | _ => none

def text? : Json → Option String
  | .string s => some s
  | _ => none

def flag? : Json → Option Bool
  | .bool b => some b
  | _ => none

/-- A whole number of at most `largest`, written without a fraction. -/
def natural? (largest : Nat) : Json → Option Nat
  | .number (.natural n) => if n ≤ largest then some n else none
  | _ => none

/-- The largest number of 64 bits. -/
def largest64 : Nat := Nat.pow 2 64 - 1

/-- The largest number of 32 bits. -/
def largest32 : Nat := Nat.pow 2 32 - 1

def double? : Json → Option Float
  | .number (.natural n) => some n.toUInt64.toFloat
  | .number (.negative n) => some (-n.toUInt64.toFloat)
  | .number (.double x) => some x
  | _ => none

def list? {α : Type} (read : Json → Option α) : Json → Option (List α)
  | .array items => items.mapM read
  | _ => none

/-- A table; of members with one name the last stays. -/
def table? {α : Type} (read : Json → Option α) : Json → Option (NameMap α)
  | .object members => (members.mapM fun (m : String × Json) => (read m.2).map (m.1, ·)).map NameMap.ofList
  | _ => none

def option? {α : Type} (read : Json → Option α) : Json → Option (Option α)
  | .null => some none
  | v => (read v).map some

/-- A name from a fixed list, written as a string or as an object that gives the name nothing. -/
def wordIn? (manner : Manner) : Json → Option String
  | .string s => some s
  | .object [(s, v)] => if manner.isNothing v then some s else none
  | _ => none

def word? (v : Json) : Option String := v.wordIn? .plain

/-- The object of a table. -/
def table {α : Type} (write : α → Json) (m : NameMap α) : Json :=
  .object (m.entries.map fun (name, a) => (name, write a))

namespace Slot

variable {α : Type}

/-- A field that must be there. -/
def required (read : Json → Option α) : Slot → Option α
  | .present v => read v
  | _ => none

/-- A field that stands for something when it is left out. -/
def withDefault (read : Json → Option α) (default : α) : Slot → Option α
  | .present v => read v
  | _ => some default

/-- A field whose value may be missing, as null or by leaving it out of an object. -/
def optional (read : Json → Option α) : Slot → Option (Option α)
  | .present v => option? read v
  | .absent => some none
  | .cut => none

end Slot

end Json

end Plumbline
