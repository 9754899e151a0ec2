import Plumbline.Blueprint.Document
import Plumbline.Json.Record

namespace Plumbline

/-- A heading with the number it may begin with. -/
structure Section where
  level : Nat
  number : Option Nat
  title : String
deriving DecidableEq, Repr

namespace Section

def toJson (s : Section) : Json := .object [
  ("level", .nat s.level), ("number", Json.optional Json.nat s.number), ("title", .string s.title)]

def ofJson? (v : Json) : Option Section := do
  let [level, number, title] ← v.record? ["level", "number", "title"] | none
  return {
    level := ← level.required (Json.natural? 255)
    number := ← number.optional (Json.natural? Json.largest32)
    title := ← title.required Json.text? }

/-- A number in ASCII digits of at most 32 bits. -/
def number? (digits : List Char) : Option Nat :=
  let n := digits.foldl (fun n c => n * 10 + (c.toNat - '0'.toNat)) 0
  if digits.all Char.isDigit && n ≤ Json.largest32 then some n else none

/-- The digits a heading begins with, and its text behind them. A dot may follow the digits, white space must. -/
def numbered? (s : List Char) : Option (List Char × List Char) := do
  let (digits, rest) ← Text.some? Text.isDecimal s
  let (_, title) ← Text.some? Text.isBlank ((Text.after? ['.'] rest).getD rest)
  if title.isEmpty || title.contains '\n' then none else some (digits, title)

def ofHeading (heading : Heading) : Section :=
  match numbered? heading.text.toList with
  | some (digits, title) => ⟨heading.level, number? digits, Document.trimmed title⟩
  | none => ⟨heading.level, none, heading.text⟩

end Section

namespace Document

def outline (document : Document) : List Section := document.headings.map Section.ofHeading

/-- Strips a remark in parentheses at the end, with the white space before it. -/
def withoutRemark (s : List Char) : List Char :=
  match s.reverse with
  | ')' :: before =>
    let remark := (before.takeWhile (· != ')')).reverse
    if remark.contains '(' then
      Text.trimEnd (s.take (before.length - remark.length + (remark.takeWhile (· != '(')).length))
    else s
  | _ => s

/-- The heading of the highest level that comes first. -/
def title? (document : Document) : Option Nat := document.headings.findIdx? (·.level == 1)

/-- The title without its remark, where a dash stands for each colon. -/
def projectName (document : Document) : String :=
  match (document.title?.bind (document.headings[·]?)) with
  | some heading =>
    String.ofList ((Text.trim (withoutRemark heading.text.toList)).flatMap fun c => if c = ':' then [' ', '-'] else [c])
  | none => ""

/-- A text up to the first full stop that a blank follows. -/
def firstSentence (s : List Char) : List Char :=
  match Text.cut? ['.', ' '] s with
  | some (before, _) => Text.trim (before ++ ['.'])
  | none => Text.trim s

/-- The first sentence below the title. -/
def projectDescription (document : Document) : String :=
  match document.title? with
  | some title =>
    match document.paragraphs.find? fun p => p.heading.any (title ≤ ·) && !p.text.isEmpty with
    | some paragraph => String.ofList (firstSentence paragraph.text.toList)
    | none => ""
  | none => ""

end Document

end Plumbline
