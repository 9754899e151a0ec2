namespace Plumbline

/-- Numbers as a text tells them apart: whole ones that fit 64 bits, and doubles. -/
inductive Json.Number where
  | natural (n : Nat)
  | negative (n : Nat)
  | double (x : Float)

/-- A JSON value. The members of an object keep their order and their repetitions. -/
inductive Json where
  | null
  | bool (b : Bool)
  | number (n : Json.Number)
  | string (s : String)
  | array (items : List Json)
  | object (members : List (String × Json))
  /-- A value that has no meaning: a number beyond the doubles, a string or a key with half a surrogate pair, or a
  container nested too deep. It harms only those who look at it. -/
  | unreadable

namespace Json

def float (x : Float) : Json := .number (.double x)

def nat (n : Nat) : Json := .number (.natural n)

def strings (items : List String) : Json := .array (items.map .string)

/-- An optional value, absent as null. -/
def optional {α : Type} (write : α → Json) : Option α → Json
  | none => .null
  | some a => write a

/-- Containers may nest this deep. -/
def maxDepth : Nat := 127

mutual
/-- Whether every part of a value has a meaning. -/
def isReadable : Json → Bool
  | .array items => areReadable items
  | .object members => haveReadable members
  | .unreadable => false
  | _ => true

def areReadable : List Json → Bool
  | [] => true
  | v :: rest => v.isReadable && areReadable rest

def haveReadable : List (String × Json) → Bool
  | [] => true
  | (_, v) :: rest => v.isReadable && haveReadable rest
end

end Json

end Plumbline
