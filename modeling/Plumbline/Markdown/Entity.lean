import Plumbline.Markdown.EntityNames
import Plumbline.Markdown.Space
import Plumbline.Text.Search

namespace Plumbline.Markdown

/-- The characters a named reference stands for. -/
def namedEntity? (name : List Char) : Option (List Char) :=
  if name.isEmpty then none
  else entityLines.findSome? fun line =>
    (Text.cut? (' ' :: name ++ ['=']) line.toList).map fun (_, rest) => rest.takeWhile (· != ' ')

/-- The character of a code point; what is no character is replaced. -/
def numberedEntity (n : Nat) : Char := if n = 0 || !n.isValidChar then '\ufffd' else Char.ofNat n

def hexValue (c : Char) : Nat :=
  if c.isDigit then c.toNat - '0'.toNat else c.toLower.toNat - 'a'.toNat + 10

def isHexDigit (c : Char) : Bool := c.isDigit || ('a' ≤ c.toLower && c.toLower ≤ 'f')

/-- Reads the digits of a numbered reference, as many as it may have, and the semicolon behind them. -/
def readNumbered (base most : Nat) (isDigit : Char → Bool) (s : List Char) : Option (List Char × List Char) :=
  let digits := (s.takeWhile isDigit).take most
  match digits, s.drop digits.length with
  | _ :: _, ';' :: rest => some ([numberedEntity (digits.foldl (fun n c => n * base + hexValue c) 0)], rest)
  | _, _ => none

/-- Reads a character reference behind its ampersand. -/
def readEntity : List Char → Option (List Char × List Char)
  | '#' :: 'x' :: s => readNumbered 16 6 isHexDigit s
  | '#' :: 'X' :: s => readNumbered 16 6 isHexDigit s
  | '#' :: s => readNumbered 10 7 Char.isDigit s
  | s => match s.dropWhile Char.isAlphanum with
    | ';' :: rest => (namedEntity? (s.takeWhile Char.isAlphanum)).map fun found => (found, rest)
    | _ => none

/-- A text with its backslash escapes and character references resolved, and without its carriage returns. `fuel`
bounds its length. -/
def resolve : Nat → List Char → List Char
  | 0, s => s
  | _, [] => []
  | fuel + 1, '\\' :: c :: s => if isAsciiPunctuation c then c :: resolve fuel s else '\\' :: resolve fuel (c :: s)
  | fuel + 1, '&' :: s => match readEntity s with
    | some (found, rest) => found ++ resolve fuel rest
    | none => '&' :: resolve fuel s
  | fuel + 1, '\r' :: s => resolve fuel s
  | fuel + 1, c :: s => c :: resolve fuel s

/-- A text with its backslash escapes and character references resolved, and without its carriage returns. -/
def unescape (s : List Char) : List Char := resolve s.length s

end Plumbline.Markdown
