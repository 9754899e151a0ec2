import Plumbline.Markdown.Glyph
import Plumbline.Markdown.Line

namespace Plumbline.Markdown.Glyph

/-- The passage to the line below an ending, and the text behind the blanks that lead that line. -/
def turnTo (containers : List Container) (s : List Char) : Glyph × List Char :=
  let inner := (Ahead.ofText containers (s.drop (ending s).length)).cursor.rest
  (turn (s.take (s.length - inner.length)) (inner.takeWhile isIndent), skipIndent inner)

/-- The glyphs of a text in containers up to its end, or to the first line ending with a line below that does not go on
with it, and the text from there on. `fuel` bounds the length of the text. -/
def gather (containers : List Container) (goesOn : Ahead → Bool) : Nat → List Char → List Glyph × List Char
  | 0, s => ([], s)
  | _, [] => ([], [])
  | fuel + 1, c :: s =>
    if isEnding c then
      if goesOn (.ofText containers ((c :: s).drop (ending (c :: s)).length)) then
        let (passage, behind) := turnTo containers (c :: s)
        let (glyphs, rest) := gather containers goesOn fuel behind
        (passage :: glyphs, rest)
      else ([], c :: s)
    else
      let (glyphs, rest) := gather containers goesOn fuel s
      (char c :: glyphs, rest)

end Plumbline.Markdown.Glyph
