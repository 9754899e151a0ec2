import Plumbline.Text.Lines

namespace Plumbline.Source

open Plumbline.Text

/-- The name and the base list of a line of Python that opens a class. A class without parentheses has no base list. -/
def classHeader? (line : List Char) : Option (List Char × Option (List Char)) := do
  let s ← after? "class".toList line
  let (_, s) ← some? isBlank s
  let (name, s) ← some? isWord s
  match trimStart s with
  | '(' :: s =>
    let bases := s.takeWhile (· != ')')
    let ')' :: s := s.drop bases.length | none
    let ':' :: _ := trimStart s | none
    return (name, some (trim bases))
  | ':' :: _ => return (name, none)
  | _ => none

def startsBlank (line : List Char) : Bool := (line.head?.map isBlank).getD false

/-- A class at the top level of a source text. Each line of its body ends in a line feed. -/
structure Class where
  name : String
  bases : String
  body : String
deriving DecidableEq, Repr

/-- The classes found so far, last first, and whether the next line may still belong to the last one. -/
structure ClassScan where
  found : List Class
  inBody : Bool

def ClassScan.start : ClassScan := ⟨[], false⟩

/-- A header opens a class, any other line at the margin closes the open one, and the rest is its body. -/
def ClassScan.step (scan : ClassScan) (line : List Char) : ClassScan :=
  match classHeader? line with
  | some (name, bases) => ⟨⟨String.ofList name, String.ofList (bases.getD []), ""⟩ :: scan.found, true⟩
  | none =>
    if !line.isEmpty && !startsBlank line then { scan with inBody := false }
    else match scan.inBody, scan.found with
      | true, last :: before =>
        { scan with found := { last with body := last.body ++ String.ofList line ++ "\n" } :: before }
      | _, _ => scan

/-- The classes at the top level of a source text, in order. -/
def classes (text : String) : List Class :=
  ((lines text.toList).foldl ClassScan.step .start).found.reverse

/-- Whether a class body assigns or annotates a field at the start of a line. -/
def declaresField (body field : String) : Bool :=
  (lines body.toList).any fun line =>
    match after? field.toList (trimStart line) with
    | some rest => match trimStart rest with
      | '=' :: _ => true
      | ':' :: _ => true
      | _ => false
    | none => false

/-- Strips one quote from the front. -/
def dropQuote : List Char → List Char
  | c :: s => if isQuote c then s else c :: s
  | [] => []

/-- The part of a dotted name after its last dot. -/
def lastPart (name : List Char) : List Char := (name.reverse.takeWhile (· != '.')).reverse

/-- Reads a relationship field up to its target. -/
def relationTarget : Reader (List Char) := fun _ s => do
  let s ← (after? "ForeignKey".toList s).or <| (after? "OneToOneField".toList s).or <| after? "ManyToManyField".toList s
  let '(' :: s := trimStart s | none
  some? (fun c => isWord c || c == '.') (dropQuote (trimStart s))

/-- Whether a class body holds a relationship to a model, which may be named with or without its application. -/
def relatesTo (body target : String) : Bool :=
  (findAll relationTarget none body.toList).any fun found =>
    found == target.toList || lastPart found == lastPart target.toList

/-- Reads a declaration that makes a model abstract. -/
def abstractMark : Reader Unit := fun _ s => do
  let '=' :: s := trimStart (← after? "abstract".toList s) | none
  let rest ← after? "True".toList (trimStart s)
  return ((), rest)

def isAbstract (body : List Char) : Bool := (findFirst abstractMark none body).isSome

end Plumbline.Source
