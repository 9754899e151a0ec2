import Plumbline.Text.Class

namespace Plumbline.Markdown

/-- Stars or underscores in a row. -/
structure DelimiterRun where
  char : Char
  /-- How many are left to match. -/
  count : Nat
  /-- How many there were at first. -/
  length : Nat
  opens : Bool
  closes : Bool
deriving DecidableEq, Repr

namespace DelimiterRun

def isBoundary (c : Option Char) : Bool := c.all Text.isBlank

/-- A run between two characters. Underscores do not open or close emphasis inside a word. -/
def make (char : Char) (length : Nat) (before after : Option Char) : DelimiterRun where
  char := char
  count := length
  length := length
  opens := !isBoundary after &&
    (isBoundary before || before.any Text.isPunctuation || char == '*' && !after.any Text.isPunctuation)
  closes := !isBoundary before &&
    (isBoundary after || after.any Text.isPunctuation || char == '*' && !before.any Text.isPunctuation)

def literal (run : DelimiterRun) : List Char := List.replicate run.count run.char

def isTwoSided (run : DelimiterRun) : Bool := run.opens && run.closes

/-- Whether a closing run may be matched with an opening one. Where one of them could do both, their lengths must not
add up to a multiple of three, unless both are such multiples themselves. -/
def matchesOpening (closing opening : DelimiterRun) : Bool :=
  opening.char == closing.char &&
    (!closing.isTwoSided && !opening.isTwoSided || (closing.length + opening.length) % 3 != 0 ||
      closing.length % 3 == 0)

end DelimiterRun

/-- A part of a text. -/
inductive Inline where
  | text (s : List Char)
  /-- Stars or underscores that may turn out to be emphasis. -/
  | run (run : DelimiterRun)
  /-- A line break that a backslash made. -/
  | hardBreak

namespace Inline

/-- What a part reads as when nothing matches it. -/
def literal : Inline → List Char
  | text s => s
  | run r => r.literal
  | hardBreak => [' ']

/-- The text of parts that stand in reverse order. -/
def flatten (newestFirst : List Inline) : List Char := (newestFirst.reverse).flatMap literal

/-- The parts after the newest run that a closing one matches, that run, and the parts before it. -/
def findOpening (closing : DelimiterRun) : List Inline → Option (List Inline × DelimiterRun × List Inline)
  | [] => none
  | part :: rest =>
    let further := (findOpening closing rest).map fun (inner, opening, outer) => (part :: inner, opening, outer)
    match part with
    | .run opening => if closing.matchesOpening opening then some ([], opening, rest) else further
    | _ => further

/-- Matches a closing run with earlier ones while any of it is left. Matched delimiters vanish, and what stands between
them is settled. -/
def close : Nat → DelimiterRun → List Inline → DelimiterRun × List Inline
  | 0, closing, parts => (closing, parts)
  | fuel + 1, closing, parts =>
    if closing.count = 0 then (closing, parts)
    else match findOpening closing parts with
      | none => (closing, parts)
      | some (inner, opening, outer) =>
        let matched := min closing.count opening.count
        let outer := if matched < opening.count then
            .run { opening with count := opening.count - matched } :: outer
          else outer
        close fuel { closing with count := closing.count - matched } (.text (flatten inner) :: outer)

/-- Takes one more part; runs that can only be text become text. -/
def take (parts : List Inline) : Inline → List Inline
  | .run r =>
    let (left, parts) := if r.closes then close r.count r parts else (r, parts)
    if left.count = 0 then parts
    else if left.opens then .run left :: parts
    else .text left.literal :: parts
  | part => part :: parts

/-- The parts with a backslash in the place of a line break that has nothing behind it. -/
def revokeBreak : List Inline → List Inline
  | .hardBreak :: parts => .text ['\\'] :: parts
  | parts => parts

/-- The text of parts that stand in reverse order, with emphasis resolved. Only where there was something to resolve,
a line break at the end is none: `isMarked` tells. -/
def settle (isMarked : Bool) (newestFirst : List Inline) : List Char :=
  let parts := if isMarked then revokeBreak newestFirst else newestFirst
  flatten (parts.reverse.foldl take [])

end Inline

end Plumbline.Markdown
