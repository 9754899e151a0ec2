import Plumbline.Markdown.Space

namespace Plumbline.Markdown

/-- A character of a text that runs over lines, or the passage from one line to the next. -/
inductive Glyph where
  | char (c : Char)
  /-- A line ending with the marks of the containers that the next line is in, and the blanks that lead that line. -/
  | turn (mark indent : List Char)
deriving DecidableEq, Repr

namespace Glyph

def ofChars (s : List Char) : List Glyph := s.map char

def char? : Glyph → Option Char
  | char c => some c
  | turn _ _ => none

def is (glyph : Glyph) (c : Char) : Bool := glyph == char c

/-- Whether the glyph is a character of a class. -/
def satisfies (p : Char → Bool) (glyph : Glyph) : Bool := glyph.char?.any p

def isTurn (glyph : Glyph) : Bool := glyph.char?.isNone

/-- White space, of which the passage to another line is a part. -/
def isSpace (glyph : Glyph) : Bool := glyph.char?.all Markdown.isSpace

/-- The characters of the text that the glyph stands for. -/
def chars : Glyph → List Char
  | char c => [c]
  | turn mark indent => mark ++ indent

/-- How many characters of the text some glyphs stand for. -/
def width (s : List Glyph) : Nat := s.foldl (fun total glyph => total + glyph.chars.length) 0

/-- What is left of a line. -/
def line (s : List Glyph) : List Char := (s.takeWhile (!·.isTurn)).filterMap char?

def skipGap (s : List Glyph) : List Glyph := s.dropWhile (satisfies isGap)

/-- Whether a line or the text ends here. -/
def isAtEnd (s : List Glyph) : Bool := s.head?.all isTurn

/-- What follows `lead` in a text that begins with it. -/
def after? : List Char → List Glyph → Option (List Glyph)
  | [], s => some s
  | _ :: _, [] => none
  | c :: lead, glyph :: s => if glyph.is c then after? lead s else none

/-- What follows the first occurrence of `needle`. -/
def afterFirst? (needle : List Char) : List Glyph → Option (List Glyph)
  | [] => none
  | glyph :: s => match after? needle (glyph :: s) with
    | some rest => some rest
    | none => afterFirst? needle s

/-- Reads something within a line. -/
def onLine {α : Type} (read : List Char → Option (α × List Char)) (s : List Glyph) : Option (α × List Glyph) :=
  (read (line s)).map fun (found, rest) => (found, s.drop ((line s).length - rest.length))

/-- The character before a tail `rest` of `s`, unless a line begins there. -/
def lastBefore (s rest : List Glyph) : Option Char := (s.take (s.length - rest.length)).getLast?.bind char?

end Glyph

end Plumbline.Markdown
