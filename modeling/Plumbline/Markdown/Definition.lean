import Plumbline.Markdown.Gathering
import Plumbline.Markdown.Label
import Plumbline.Markdown.Link

namespace Plumbline.Markdown

/-- Skips white space with at most one passage to another line in it, and says whether there was one. More text must
follow. -/
def skipToPart? (s : List Glyph) : Option (Bool × List Glyph) :=
  match Glyph.skipGap s with
  | [] => none
  | .turn _ _ :: rest => if Glyph.isAtEnd (Glyph.skipGap rest) then none else some (true, Glyph.skipGap rest)
  | rest => some (false, rest)

/-- Reads what follows the colon of a definition. The destination and the title may each stand on a line of their own.
A title with more text behind it is none, and belongs to the lines below. -/
def readDefined (s : List Glyph) : Option (List Glyph) := do
  let (_, start) ← skipToPart? s
  let behind ← readDestination start
  if behind.length = start.length then none
  match skipToPart? behind with
  | none => some behind
  | some (isBelow, next) =>
    let plain := if isBelow then some behind else none
    if !isBelow && next.length = behind.length then none
    else match readTitle false next with
      | some rest => if Glyph.isAtEnd (Glyph.skipGap rest) then some rest else plain
      | none => plain

/-- Reads a definition at the start of a text in containers, and returns its label and the text below its last line. -/
def readDefinition (containers : List Container) (s : List Char) : Option (List Char × List Char) := do
  let (inside, _) := Glyph.gather containers Ahead.continuesLabel s.length s
  let (label, rest) ← readLabel inside
  let afterLabel := s.drop (Glyph.width inside - Glyph.width rest)
  let defined ← Text.after? [':'] afterLabel
  let (parts, _) := Glyph.gather containers Ahead.continuesDefinition defined.length defined
  let rest ← readDefined parts
  return (label, belowBlank (defined.drop (Glyph.width parts - Glyph.width rest)))

end Plumbline.Markdown
