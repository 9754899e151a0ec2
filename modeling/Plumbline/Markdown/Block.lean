import Plumbline.Markdown.Code
import Plumbline.Markdown.Definition
import Plumbline.Markdown.Inline

namespace Plumbline.Markdown

/-- A heading, a piece of code or a paragraph. -/
inductive Leaf (Text : Type) where
  | heading (level : Nat) (text : Text)
  | code (info text : List Char)
  /-- A paragraph that stands right in a list item does so for the list to decide: a tight one holds no paragraphs. -/
  | paragraph (isUndecided : Bool) (text : Text)

def Leaf.map {α β : Type} (f : α → β) : Leaf α → Leaf β
  | heading level text => heading level (f text)
  | code info text => code info text
  | paragraph isUndecided text => paragraph isUndecided (f text)

/-- An open container and the leaves in it so far, newest first. -/
structure Frame where
  container : Container
  leaves : List (Leaf Passage)

/-- What is known after some lines. -/
structure BlockScan where
  /-- The open containers, innermost first. -/
  frames : List Frame
  /-- The leaves outside all containers, newest first. -/
  leaves : List (Leaf Passage)
  isAfterBlank : Bool
  /-- Whether the innermost item has no content yet. -/
  isFresh : Bool
  labels : Labels

namespace BlockScan

def start : BlockScan := ⟨[], [], false, false, []⟩

/-- The containers, outermost first. -/
def containers (scan : BlockScan) : List Container := (scan.frames.map Frame.container).reverse

/-- Adds leaves, newest first, to the innermost container. -/
def addLeaves (scan : BlockScan) (leaves : List (Leaf Passage)) : BlockScan :=
  match scan.frames with
  | [] => { scan with leaves := leaves ++ scan.leaves }
  | frame :: rest => { scan with frames := { frame with leaves := leaves ++ frame.leaves } :: rest }

def add (scan : BlockScan) (leaf : Leaf Passage) : BlockScan := scan.addLeaves [leaf]

def openContainer (scan : BlockScan) (container : Container) : BlockScan :=
  { scan with frames := ⟨container, []⟩ :: scan.frames }

/-- What a list makes of the paragraphs that stand right in its items. -/
def decide? (isTight : Bool) : Leaf Passage → Option (Leaf Passage)
  | .paragraph true text => if isTight then none else some (.paragraph false text)
  | leaf => some leaf

/-- Closes the innermost container. -/
def close (scan : BlockScan) : BlockScan :=
  match scan.frames with
  | [] => scan
  | ⟨container, leaves⟩ :: rest =>
    let outer := { scan with frames := rest }
    match container with
    | .list _ isTight =>
      { outer with isFresh := scan.isFresh && !isTight }.addLeaves (leaves.filterMap (decide? isTight))
    | _ => outer.addLeaves leaves

/-- Closes the innermost containers down to a number of them. -/
def closeTo (depth : Nat) (scan : BlockScan) : BlockScan :=
  (List.range (scan.frames.length - depth)).foldl (fun scan _ => scan.close) scan

def top? (scan : BlockScan) : Option Container := scan.frames.head?.map Frame.container

def isInItem (scan : BlockScan) : Bool :=
  match scan.top? with
  | some (.item _) => true
  | _ => false

/-- Ends an item that began with more than one blank line. -/
def finishEmptyItem (scan : BlockScan) : BlockScan :=
  let scan := if scan.isFresh && scan.isAfterBlank && scan.isInItem then scan.close else scan
  { scan with isFresh := false }

/-- Makes a list loose. -/
def loosen (frame : Frame) : Frame :=
  match frame.container with
  | .list sign _ => { frame with container := .list sign false }
  | _ => frame

/-- Ends a list whose last item is over, in front of something that is no item of it. A blank line before something
else in an item makes the list loose. -/
def finishList (scan : BlockScan) : BlockScan :=
  let scan := scan.finishEmptyItem
  let scan := match scan.top? with
    | some (.list _ _) => scan.close
    | _ => scan
  let frames := match scan.frames with
    | item :: list :: rest => if scan.isAfterBlank then item :: loosen list :: rest else item :: list :: rest
    | frames => frames
  { scan with frames := frames, isAfterBlank := false }

/-- Goes on with the innermost list if its items have the same sign, or opens a new list. -/
def continueList (scan : BlockScan) (sign : Char) : BlockScan :=
  let scan := scan.finishEmptyItem
  match scan.frames with
  | frame :: rest => match frame.container with
    | .list other _ =>
      if other = sign then
        { scan with frames := (if scan.isAfterBlank then loosen frame else frame) :: rest, isAfterBlank := false }
      else scan.finishList.openContainer (.list sign true)
    | _ => scan.finishList.openContainer (.list sign true)
  | [] => { scan.openContainer (.list sign true) with isAfterBlank := false }

/-- Opens the containers that begin at a place, and returns the place behind their marks, and whether a list item begins
there that has nothing more in its line. `fuel` bounds the length of the line. -/
def openAll : Nat → BlockScan → Cursor → BlockScan × Cursor × Bool
  | 0, scan, cursor => (scan, cursor, false)
  | fuel + 1, scan, cursor =>
    let (missing, inner) := cursor.take 4
    if missing = 0 then (scan, cursor, false)
    else match inner.takeListMark (4 - missing) with
      | some (sign, indent, behind) =>
        let scan := (scan.continueList sign).openContainer (.item indent)
        if isBlankLine behind.rest then ({ scan with isFresh := true }, behind, true) else openAll fuel scan behind
      | none =>
        if inner.rest.head? = some '>' then
          openAll fuel (scan.finishList.openContainer .quote) ((inner.advance 1).take 1).2
        else (scan, cursor, false)

def addIndented (scan : BlockScan) (first : Cursor) : BlockScan × List Char :=
  let (found, rest) := indentedLines scan.containers first.rest.length first.spare first.rest
  let isBlank := false :: found.map (·.2)
  let kept := ((found.zip isBlank).reverse.dropWhile (·.2)).reverse
  ({ scan.add (.code [] (kept.flatMap (·.1.1))) with isAfterBlank := isBlank.getD (found.length - 1) false }, rest)

/-- Adds the paragraph that begins a text, or the heading that a line under it makes of it. -/
def addParagraph (scan : BlockScan) (s : List Char) : BlockScan × List Char :=
  let (glyphs, rest) := Glyph.gather scan.containers Ahead.continues s.length s
  let below := rest.drop (ending rest).length
  let ahead := Ahead.ofText scan.containers below
  match if ahead.isCurrent then ahead.underline? else none with
  | some level =>
    let underline := skipIndent ahead.cursor.rest
    let tail := rest.take (rest.length - underline.length)
    (scan.add (.heading level (.ofGlyphs glyphs tail)), belowBlank (underline.dropWhile (underline.head? == some ·)))
  | none => (scan.add (.paragraph scan.isInItem (.ofGlyphs glyphs [])), below)

/-- Reads the definitions that begin a text, and returns the text behind the last of them with whether a paragraph goes
on there. `fuel` bounds their number. -/
def readDefinitions : Nat → BlockScan → List Char → BlockScan × List Char × Bool
  | 0, scan, s => (scan, s, true)
  | fuel + 1, scan, s => match readDefinition scan.containers s with
    | none => (scan, s, true)
    | some (label, below) =>
      let scan := { scan with labels := label :: scan.labels }
      let ahead := Ahead.ofText scan.containers below
      if ahead.isBlock then (scan, below, false) else readDefinitions fuel scan (skipIndent ahead.cursor.rest)

/-- Adds the leaf that begins a text with `indent` blanks in front, which are less than four. -/
def addLeaf (scan : BlockScan) (indent : Nat) (s : List Char) : BlockScan × List Char :=
  let behind := s.drop 1
  let isMarkup := s.head? == some '<'
  match if isMarkup then Html.blockEnd? behind else none with
  | some ending => (scan, afterEnding scan.containers ending s.length s)
  | none =>
    if isMarkup && (Html.opensBlock behind || Html.isLoneTag behind) then
      (scan, afterTag scan.containers s.length s)
    else if isBreak s then (scan, belowLine s)
    else match headingLevel? s, fence? s with
      | some level, _ => (scan.add (.heading level (.ofChars (headingText (s.drop level)))), belowLine s)
      | none, some (sign, count) =>
        let (info, below) := cutFeed (s.drop count)
        let (text, rest) := fencedText scan.containers indent sign count (s.length + 1) below
        (scan.add (.code (fenceInfo info) text), rest)
      | none, none => match readDefinitions s.length scan s with
        | (scan, rest, true) => scan.addParagraph rest
        | (scan, rest, false) => (scan, rest)

/-- Takes notice of a blank line. An item that has no content yet goes on only as far as its mark is not indented. -/
def markBlank (scan : BlockScan) : BlockScan :=
  match scan.frames with
  | [] => scan
  | frame :: rest => match frame.container with
    | .quote => scan
    | .item _ =>
      let container := if scan.isFresh then .item 0 else frame.container
      { scan with frames := { frame with container := container } :: rest, isAfterBlank := true }
    | .list _ _ => { scan with isAfterBlank := true }

/-- Reads the block that begins a text, and returns the text behind it. -/
def step (scan : BlockScan) (s : List Char) : BlockScan × List Char :=
  let (depth, cursor) := Container.enter (.start s) scan.containers
  match openAll s.length (scan.closeTo depth) cursor with
  | (scan, cursor, true) => (scan, belowBlank cursor.rest)
  | (scan, cursor, false) =>
    if isBlankLine cursor.rest then (scan.markBlank, belowBlank cursor.rest)
    else match cursor.take 4 with
      | (0, inner) => scan.finishList.addIndented inner
      | (missing, inner) => scan.finishList.addLeaf (4 - missing) inner.rest

/-- Reads a whole text. `fuel` bounds its length. -/
def run : Nat → BlockScan → List Char → BlockScan
  | 0, scan, _ => scan
  | _, scan, [] => scan
  | fuel + 1, scan, s =>
    let (scan, rest) := scan.step s
    run fuel scan rest

end BlockScan

/-- The headings, pieces of code and paragraphs of a text in order, each as it reads. -/
def leaves (text : List Char) : List (Leaf (List Char)) :=
  let scan := BlockScan.closeTo 0 (BlockScan.run text.length .start text)
  scan.leaves.reverse.map (Leaf.map (Passage.plain scan.labels))

end Plumbline.Markdown
