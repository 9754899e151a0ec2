import Plumbline.Markdown.Emphasis
import Plumbline.Markdown.Entity
import Plumbline.Markdown.Html
import Plumbline.Markdown.Label
import Plumbline.Markdown.Link

namespace Plumbline.Markdown

/-- The text of a paragraph or a heading. -/
structure Passage where
  glyphs : List Glyph
  /-- What leads from the text to the line under it that makes it a heading. -/
  tail : List Char

namespace Passage

def ofChars (s : List Char) : Passage := ⟨Glyph.ofChars s, []⟩

/-- White space at the end of the last line is no part of the text. -/
def ofGlyphs (glyphs : List Glyph) (tail : List Char) : Passage :=
  ⟨(glyphs.reverse.dropWhile (Glyph.satisfies isGap)).reverse, tail⟩

end Passage

/-- An opening bracket that still waits for its closing one. -/
structure Bracket where
  isImage : Bool
  /-- Whether it may still open a link; links hold no links. -/
  isActive : Bool
  /-- The parts before the bracket, newest first. -/
  before : List Inline
  /-- The text behind the bracket. -/
  inside : List Glyph

def Bracket.literal (bracket : Bracket) : List Char := if bracket.isImage then ['!', '['] else ['[']

/-- What is known of a text up to some place in it. -/
structure InlineScan where
  /-- The parts since the innermost open bracket, newest first. -/
  parts : List Inline
  /-- The open brackets, innermost first. -/
  brackets : List Bracket
  /-- How much text is left behind a closing bracket whose label is known to be undefined. -/
  barred : Option Nat
  /-- Whether a character was met that may mean more than itself. -/
  isMarked : Bool

namespace InlineScan

def start : InlineScan := ⟨[], [], none, false⟩

def push (scan : InlineScan) (s : List Char) : InlineScan := { scan with parts := .text s :: scan.parts }

def openBracket (scan : InlineScan) (isImage : Bool) (inside : List Glyph) : InlineScan :=
  { scan with parts := [], brackets := ⟨isImage, true, scan.parts, inside⟩ :: scan.brackets }

/-- The parts with an open bracket taken as text. -/
def surrender (bracket : Bracket) (parts : List Inline) : List Inline :=
  parts ++ .text bracket.literal :: bracket.before

/-- Bars every link around a link that has just been closed. -/
def disable (brackets : List Bracket) : List Bracket :=
  brackets.map fun bracket => if bracket.isImage then bracket else { bracket with isActive := false }

/-- Whether some run among the parts may be emphasis. -/
def hasRun (parts : List Inline) : Bool :=
  parts.any fun
    | .run _ => true
    | _ => false

/-- Turns what stands in a bracket into the text of a link or an image. -/
def link (scan : InlineScan) (bracket : Bracket) (outer : List Bracket) : InlineScan :=
  { scan with
    parts := .text (Inline.settle (hasRun scan.parts) scan.parts) :: bracket.before
    brackets := if bracket.isImage then outer else disable outer }

/-- The label that a bracket itself would refer by: what stands in it up to the text `rest` behind it. -/
def ownLabel? (bracket : Bracket) (rest : List Glyph) : Option (List Char) :=
  match readLabel (.char '[' :: bracket.inside) with
  | some (label, behind) => if behind.length = rest.length then some label else none
  | none => none

/-- The text from the bracket on that opens a reference behind a closing bracket. A backslash in front of it is no
hindrance. -/
def referenceAfter : List Glyph → List Glyph
  | .char '\\' :: .char '[' :: s => .char '[' :: s
  | s => s

/-- Closes the innermost bracket in front of the text `rest`, and returns the text left over. Tabs at the very end keep
the bracket from closing a link. -/
def closeBracket (labels : Labels) (scan : InlineScan) (rest : List Glyph) : InlineScan × List Glyph :=
  match scan.brackets with
  | [] => (scan.push [']'], rest)
  | bracket :: outer =>
    let plain := { scan with parts := .text [']'] :: surrender bracket scan.parts, brackets := outer }
    let ownLink (behind : List Glyph) : InlineScan × List Glyph :=
      if scan.barred != some rest.length && (ownLabel? bracket rest).any labels.contains then
        (scan.link bracket outer, behind)
      else (plain, rest)
    if !bracket.isActive || !rest.isEmpty && rest.all (Glyph.satisfies isGap) then (plain, rest)
    else match readInlineLink rest with
      | some behind => (scan.link bracket outer, behind)
      | none => match referenceAfter rest with
        | .char '[' :: .char ']' :: behind => ownLink behind
        | reference => match readLabel reference with
          | some (label, behind) =>
            if labels.contains label then (scan.link bracket outer, behind)
            else ({ plain with barred := some behind.length }, rest)
          | none => ownLink rest

/-- All parts, with the brackets left open taken as text. -/
def finish (scan : InlineScan) : List Inline :=
  scan.brackets.foldl (fun parts bracket => surrender bracket parts) scan.parts

end InlineScan

/-- Reads code up to a row of exactly `n` backticks. `inside` is what was passed, newest first, and ends in `run`
backticks. -/
def codeUntil (n : Nat) (inside : List Glyph) (run : Nat) : List Glyph → Option (List Glyph × List Glyph)
  | [] => if run = n then some ((inside.drop n).reverse, []) else none
  | glyph :: s =>
    if glyph.is '\x60' then codeUntil n (glyph :: inside) (run + 1) s
    else if run = n then some ((inside.drop n).reverse, glyph :: s)
    else codeUntil n (glyph :: inside) 0 s

/-- What a glyph reads as in a code span, where each character of a line ending is a blank and the blanks of the next
line stay. -/
def Glyph.inCode : Glyph → List Char
  | char c => [c]
  | turn mark indent => (ending mark).map (fun _ => ' ') ++ indent

/-- The text of a code span. One blank at each end is stripped unless there are only blanks. -/
def codeText (s : List Glyph) : List Char :=
  let s := s.flatMap Glyph.inCode
  if s.head? = some ' ' && s.getLast? = some ' ' && !s.all (· == ' ') then (s.drop 1).dropLast else s

/-- Reads a code span opened by `n` backticks. -/
def readCode (n : Nat) (s : List Glyph) : Option (List Char × List Glyph) :=
  if n = 0 then none else (codeUntil n [] 0 s).map fun (inside, rest) => (codeText inside, rest)

def isMailChar (c : Char) : Bool := c.isAlphanum || ".!#$%&'*+/=?^_\x60\x7b|\x7d~-".toList.contains c

/-- Whether a part of a host name is well formed. -/
def isHostPart (s : List Char) : Bool :=
  !s.isEmpty && s.length ≤ 63 && s.head? != some '-' && s.getLast? != some '-' && s.all Html.isTagChar

/-- Whether a text in angle brackets is an address of a page: a scheme, a colon, and no white space. -/
def isPageAddress (s : List Char) : Bool :=
  let scheme := s.takeWhile (· != ':')
  s.contains ':' && 2 ≤ scheme.length && scheme.length ≤ 32 && (scheme.head?.map Char.isAlpha).getD false &&
    (scheme.all fun c => c.isAlphanum || ".-+".toList.contains c) && s.all fun c => 32 < c.toNat && c != '<'

/-- Whether a text in angle brackets is an address of a mailbox. -/
def isMailAddress (s : List Char) : Bool :=
  let name := s.takeWhile (· != '@')
  s.contains '@' && !name.isEmpty && name.all isMailChar &&
    (Text.split (· == '.') (s.drop (name.length + 1))).all isHostPart

/-- Reads an address behind its opening bracket. -/
def readAddress (s : List Char) : Option (List Char × List Char) :=
  match s.dropWhile (· != '>') with
  | '>' :: rest =>
    let address := s.takeWhile (· != '>')
    if isPageAddress address || isMailAddress address then some (address, rest) else none
  | _ => none

/-- Reads what stands at a place, in front of `tail`, that means more than itself: the part it reads as, and the text
left over. -/
def readSpan (tail : List Char) : List Glyph → Option (Inline × List Glyph)
  | .turn _ _ :: s => some (.text [' '], s)
  | .char '\\' :: .turn _ _ :: s => some (.hardBreak, s)
  | .char '\\' :: .char '\x60' :: s =>
    let run := s.takeWhile (·.is '\x60')
    match readCode run.length (s.drop run.length) with
    | some (code, rest) => some (.text ('\x60' :: code), rest)
    | none => some (.text (List.replicate (run.length + 1) '\x60'), s.drop run.length)
  | .char '\\' :: .char c :: s => if isAsciiPunctuation c then some (.text [c], s) else none
  | .char '\x60' :: s =>
    let run := s.takeWhile (·.is '\x60')
    match readCode (run.length + 1) (s.drop run.length) with
    | some (code, rest) => some (.text code, rest)
    | none => some (.text (List.replicate (run.length + 1) '\x60'), s.drop run.length)
  | .char '<' :: s => match Glyph.onLine readAddress s with
    | some (address, rest) => some (.text address, rest)
    | none => (Html.readInline tail s).map fun rest => (.text [], rest)
  | .char '&' :: s => (Glyph.onLine readEntity s).map fun (found, rest) => (.text found, rest)
  | .char c :: s =>
    match Glyph.skipGap s with
    | .turn _ _ :: rest => if isGap c then some (.text [' '], rest) else none
    | _ => none
  | [] => none

/-- Whether the front of a text may mean more than itself, apart from stars and underscores. -/
def isMark : List Glyph → Bool
  | .char '\\' :: .char '\x60' :: _ => true
  | .char '<' :: .char '\\' :: _ => false
  | .char c :: _ => c == '\x60' || c == '<' || c == '[' || c == ']'
  | _ => false

/-- Goes through a text in front of `tail` in which `before` stands in front, where lines have no character in front.
`fuel` bounds its length. -/
def InlineScan.run (labels : Labels) (tail : List Char) : Nat → InlineScan → Option Char → List Glyph → InlineScan
  | 0, scan, _, _ => scan
  | _, scan, _, [] => scan
  | fuel + 1, scan, before, glyph :: s =>
    let scan := { scan with isMarked := scan.isMarked || isMark (glyph :: s) }
    let continueAt (scan : InlineScan) (rest : List Glyph) : InlineScan :=
      run labels tail fuel scan (Glyph.lastBefore (glyph :: s) rest) rest
    match readSpan tail (glyph :: s) with
    | some (part, rest) => continueAt { scan with parts := part :: scan.parts } rest
    | none => match glyph, s with
      | .char '!', .char '[' :: inside => continueAt (scan.openBracket true inside) inside
      | .char '[', _ => continueAt (scan.openBracket false s) s
      | .char ']', _ =>
        let (scan, rest) := scan.closeBracket labels s
        continueAt scan rest
      | .char c, _ =>
        if c = '*' || c = '_' then
          let more := s.takeWhile (·.is c)
          let rest := s.drop more.length
          let run := DelimiterRun.make c (more.length + 1) before (rest.head?.bind Glyph.char?)
          if run.opens || run.closes then
            continueAt { scan with parts := .run run :: scan.parts, isMarked := true } rest
          else continueAt (scan.push run.literal) rest
        else run labels tail fuel (scan.push [c]) (some c) s
      | .turn _ _, _ => run labels tail fuel scan none s

/-- The text that people read in a passage. -/
def Passage.plain (labels : Labels) (passage : Passage) : List Char :=
  let scan := InlineScan.run labels passage.tail passage.glyphs.length .start none passage.glyphs
  Inline.settle scan.isMarked scan.finish

end Plumbline.Markdown
