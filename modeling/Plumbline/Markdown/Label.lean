import Plumbline.Markdown.Glyph
import Plumbline.Text.Case
import Plumbline.Text.Search

namespace Plumbline.Markdown

/-- The names that links may refer to, as `normalizeLabel` writes them. -/
abbrev Labels := List (List Char)

/-- How long a label may become. Single characters of ASCII do not count. -/
def longestLabel : Nat := 1000

/-- How many bytes some characters take. -/
def byteCount (s : List Char) : Nat := s.foldl (fun total c => total + c.utf8Size) 0

/-- Reads the inside of a label up to the bracket that closes it. White space is one blank, and no line in it is blank.
`inside` is what was read, newest first, and `size` is its length. `fuel` bounds the number of characters. -/
def readLabelRest : Nat → List Char → Nat → List Glyph → Option (List Char × List Glyph)
  | 0, _, _, _ => none
  | fuel + 1, inside, size, s =>
    if longestLabel ≤ size then none
    else match s with
      | [] => none
      | .char '[' :: _ => none
      | .char ']' :: rest => some (inside.reverse, rest)
      | .char '\\' :: .char c :: rest =>
        readLabelRest fuel (c :: '\\' :: inside) (size + 1 + c.utf8Size) rest
      | .char '\\' :: .turn ('\r' :: '\n' :: mark) indent :: rest =>
        readLabelRest fuel ('\r' :: '\\' :: inside) (size + 2) (.turn ('\n' :: mark) indent :: rest)
      | .char '\\' :: .turn mark indent :: rest =>
        readLabelRest fuel ((mark.take 1).reverse ++ '\\' :: inside) (size + 2)
          (Glyph.ofChars (mark.drop 1 ++ indent) ++ rest)
      | glyph :: rest =>
        if glyph.isSpace then
          let gap := s.takeWhile Glyph.isSpace
          if 1 < gap.countP Glyph.isTurn then none
          else readLabelRest fuel (' ' :: inside) (size + Glyph.width gap) (s.drop gap.length)
        else
          let bytes := byteCount glyph.chars
          readLabelRest fuel (glyph.chars.reverse ++ inside) (if bytes = 1 then size else size + bytes) rest

/-- A label without regard to case and to white space around it. -/
def normalizeLabel (s : List Char) : List Char := (Text.stripWhile isSpace s).flatMap Text.foldCase

/-- Reads a label in brackets and returns it normalized. -/
def readLabel : List Glyph → Option (List Char × List Glyph)
  | .char '[' :: s => do
    let (inside, rest) ← readLabelRest (Glyph.width s + 1) [] 0 s
    if inside.all isSpace then none else some (normalizeLabel inside, rest)
  | _ => none

end Plumbline.Markdown
