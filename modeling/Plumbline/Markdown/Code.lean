import Plumbline.Markdown.Entity
import Plumbline.Markdown.Line

namespace Plumbline.Markdown

/-- A line of code as it reads: a divided tab has become blanks, and a carriage return before the last character is
gone. -/
def codeLine (spare : Nat) (s : List Char) : List Char :=
  List.replicate spare ' ' ++ match s.reverse with
    | last :: '\r' :: before => (last :: before).reverse
    | _ => s

/-- The lines of code in containers that go on with indented code, each with whether a blank one leads to the next, and
the text behind. `fuel` bounds the number of lines. -/
def indentedLines (containers : List Container) : Nat → Nat → List Char → List (List Char × Bool) × List Char
  | 0, _, s => ([], s)
  | fuel + 1, spare, s =>
    let (line, below) := cutFeed s
    let isOver := ([(codeLine spare line, false)], below)
    match Container.enterAll? containers below with
    | none => isOver
    | some cursor =>
      let (missing, inner) := cursor.take 4
      if inner.rest.isEmpty || missing ≠ 0 && !inner.isAtEnd then isOver
      else
        let (lines, rest) := indentedLines containers fuel inner.spare inner.rest
        ((codeLine spare line, isBlankLine inner.rest) :: lines, rest)

/-- The text of a fenced block up to the line that closes it, and the text behind. The indentation of the fence is taken
off each line. `fuel` bounds the number of lines. -/
def fencedText (containers : List Container) (indent : Nat) (sign : Char) (count : Nat) :
    Nat → List Char → List Char × List Char
  | 0, s => ([], s)
  | fuel + 1, s => match Container.enterAll? containers s with
    | none => ([], s)
    | some cursor =>
      let (_, inner) := cursor.take indent
      let more (_ : Unit) :=
        let (line, below) := cutFeed inner.rest
        let (text, rest) := fencedText containers indent sign count fuel below
        (codeLine inner.spare line ++ text, rest)
      match inner.take (4 - indent) with
      | (0, _) => more ()
      | (_, margin) => match closeFence? sign count margin.rest with
        | some behind => ([], belowBlank behind)
        | none => more ()

/-- What stands behind the signs of a fence, as it reads. -/
def fenceInfo (s : List Char) : List Char := unescape (Text.dropRightWhile isSpace (skipGap s))

/-- The text behind a block of HTML that ends with the line that holds `ending`. `fuel` bounds the number of lines. -/
def afterEnding (containers : List Container) (ending : List Char) : Nat → List Char → List Char
  | 0, s => s
  | fuel + 1, s =>
    let (line, below) := cutFeed s
    if Text.contains ending line then below
    else match Container.enterAll? containers below with
      | none => below
      | some cursor => if cursor.rest.isEmpty then below else afterEnding containers ending fuel cursor.rest

/-- The text behind a block of HTML that ends in front of a blank line. `fuel` bounds the number of lines. -/
def afterTag (containers : List Container) : Nat → List Char → List Char
  | 0, s => s
  | fuel + 1, s =>
    let (_, below) := cutFeed s
    match Container.enterAll? containers below with
    | none => below
    | some cursor => if isBlankLine cursor.rest then below else afterTag containers fuel cursor.rest

end Plumbline.Markdown
