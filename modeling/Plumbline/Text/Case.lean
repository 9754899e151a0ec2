import Plumbline.Text.CaseRuns
import Plumbline.Text.Class

namespace Plumbline.Text

/-- The lower case of one character on its own. -/
def lowerChar (c : Char) : List Char :=
  if c.toNat < 128 then [c.toLower]
  else if c = '\u0130' then ['i', '\u0307']
  else [(lowerRuns.findSome? (·.image? c.toNat)).getD c]

/-- The upper case of one character on its own. -/
def upperChar (c : Char) : List Char :=
  if c.toNat < 128 then [c.toUpper]
  else match upperExpansions.lookup c.toNat with
    | some several => several.map Char.ofNat
    | none => [(upperRuns.findSome? (·.image? c.toNat)).getD c]

/-- Whether the next character that matters for case is a cased one. -/
def meetsCased (s : List Char) : Bool := ((s.dropWhile isCaseIgnorable).head?.map isCased).getD false

/-- Lower case of a text whose preceding characters, nearest first, are `before`. A capital sigma that ends a word
takes its final form. -/
def lowerAfter (before : List Char) : List Char → List Char
  | [] => []
  | c :: s =>
    (if c = '\u03a3' then [if meetsCased before && !meetsCased s then '\u03c2' else '\u03c3'] else lowerChar c) ++
      lowerAfter (c :: before) s

def lower (s : List Char) : List Char := lowerAfter [] s

/-- Lower case of the ASCII letters only. -/
def asciiLower (s : List Char) : List Char := s.map Char.toLower

/-- What a character is when case does not matter, where it may become several. -/
def foldCase (c : Char) : List Char :=
  if c = '\u0131' then [c] else ((lowerChar c).flatMap upperChar).flatMap lowerChar

/-- The letter a pattern that ignores case takes for `c`: besides the ASCII capitals, the Kelvin sign reads as k and
the long s as s. -/
def foldChar (c : Char) : Char := if c = '\u212a' then 'k' else if c = '\u017f' then 's' else c.toLower

end Plumbline.Text
