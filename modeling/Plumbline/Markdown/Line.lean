import Plumbline.Markdown.Container
import Plumbline.Markdown.Entity
import Plumbline.Markdown.Html

namespace Plumbline.Markdown

/-- Whether a line is a thematic break: three stars, dashes or underscores with nothing but blanks between them. -/
def isBreak (s : List Char) : Bool :=
  match lineHead s with
  | [] => false
  | c :: s => (c == '*' || c == '-' || c == '_') && (s.all fun d => d == c || isIndent d) && 2 ≤ s.countP (· == c)

/-- The level of a heading that number signs open. -/
def headingLevel? (s : List Char) : Option Nat :=
  let level := (s.takeWhile (· == '#')).length
  if 1 ≤ level && level ≤ 6 && (s.drop level).head?.all isSpace then some level else none

/-- The text of a heading behind the number signs that open it, without the signs that may close it. -/
def headingText (s : List Char) : List Char :=
  let s := Text.dropRightWhile (· == ' ') (skipGap (lineHead s))
  let inner := Text.dropRightWhile (· == '#') s
  if inner.isEmpty then []
  else if inner.getLast? = some ' ' then Text.dropRightWhile isGap inner
  else s

/-- The level of the heading that a line under it makes of a paragraph. -/
def underlineLevel? (s : List Char) : Option Nat :=
  let level? (sign : Char) (level : Nat) : Option Nat :=
    if isBlankLine (s.dropWhile (· == sign)) then some level else none
  match s with
  | '=' :: _ => level? '=' 1
  | '-' :: _ => level? '-' 2
  | _ => none

/-- The sign and the number of signs of a code fence. Behind backticks there are no more of them. -/
def fence? : List Char → Option (Char × Nat)
  | [] => none
  | c :: s =>
    let count := (s.takeWhile (· == c)).length + 1
    let info := (cutFeed (s.drop (count - 1))).1
    if (c = '\x60' || c = '~') && 3 ≤ count && !(c = '\x60' && info.contains '\x60') then some (c, count) else none

/-- What is left of a line that closes a fence of `count` signs. A fence is closed at the end of a text too. -/
def closeFence? (sign : Char) (count : Nat) (s : List Char) : Option (List Char) :=
  let behind := (s.dropWhile (· == sign)).dropWhile (· == ' ')
  if s.isEmpty || count ≤ (s.takeWhile (· == sign)).length && isAtEnd behind then some behind else none

/-- The sign that marks the items of a list, the number of the item, and the length of the mark. -/
def listMark? (s : List Char) : Option (Char × Nat × Nat) :=
  let digits := s.takeWhile Char.isDigit
  match s with
  | [] => none
  | c :: _ =>
    if c = '-' || c = '+' || c = '*' then some (c, 1, 1)
    else if 1 ≤ digits.length && digits.length ≤ 9 then
      match s.drop digits.length with
      | d :: _ =>
        if d = '.' || d = ')' then
          some (d, digits.foldl (fun n c => n * 10 + hexValue c) 0, digits.length + 1)
        else none
      | [] => none
    else none

/-- Reads the mark of a list item behind `indent` blanks: its sign, the column of its content, and the place behind. -/
def Cursor.takeListMark (cursor : Cursor) (indent : Nat) : Option (Char × Nat × Cursor) := do
  let (sign, _, length) ← listMark? cursor.rest
  if length = 1 && isBreak cursor.rest then none
  let behind := cursor.advance length
  let inner ← if behind.isAtEnd then some behind else behind.take? 1
  let content := indent + length + 1
  if isBlankLine inner.rest then some (sign, content, inner)
  else match inner.take 4 with
    | (0, _) => some (sign, content, inner)
    | (missing, further) => some (sign, content + (4 - missing), further)

/-- Whether a list item may begin here in the middle of a paragraph. In the paragraph's own containers it must not be
empty, and a number must be one. -/
def interruptsAsItem (s : List Char) (isCurrent : Bool) : Bool :=
  match listMark? s with
  | none => false
  | some (_, number, length) =>
    let behind := s.drop length
    (isAtEnd behind || behind.head?.any isIndent) && (!isCurrent || number == 1 && !isBlankLine behind)

/-- Whether a line ends the paragraph above it. -/
def interrupts (s : List Char) (isCurrent : Bool) : Bool :=
  isAtEnd s || isBreak s || (headingLevel? s).isSome || (fence? s).isSome || s.head? == some '>' ||
    interruptsAsItem s isCurrent ||
    s.head? == some '<' && ((Html.blockEnd? (s.drop 1)).isSome || Html.opensBlock (s.drop 1))

/-- The line below some text of a paragraph. -/
structure Ahead where
  /-- Whether it is in all containers of the paragraph. -/
  isCurrent : Bool
  /-- The place behind the marks of the containers that it is in. -/
  cursor : Cursor

namespace Ahead

def ofText (containers : List Container) (s : List Char) : Ahead :=
  let (depth, cursor) := Container.enter (.start s) containers
  ⟨depth == containers.length, cursor⟩

/-- The text of the line, if less than four blanks lead it. -/
def text? (ahead : Ahead) : Option (List Char) :=
  match ahead.cursor.take 4 with
  | (0, _) => none
  | (_, inner) => some inner.rest

/-- Whether the line begins a block of its own. -/
def isBlock (ahead : Ahead) : Bool := ahead.text?.any (interrupts · ahead.isCurrent)

/-- The level of the heading that the line makes of a paragraph above it, by its form alone. -/
def underline? (ahead : Ahead) : Option Nat := ahead.text?.bind underlineLevel?

def isEmpty (ahead : Ahead) : Bool := isAtEnd (skipIndent ahead.cursor.rest)

/-- Whether the line goes on with a paragraph above it. -/
def continues (ahead : Ahead) : Bool :=
  !ahead.isBlock && !(ahead.isCurrent && ahead.underline?.isSome) && !ahead.isEmpty

/-- Whether the line goes on with a definition above it. -/
def continuesDefinition (ahead : Ahead) : Bool := !ahead.isBlock && ahead.underline?.isNone && !ahead.isEmpty

/-- Whether the line goes on with a label of a definition above it. Blanks that lead it make it go on. -/
def continuesLabel (ahead : Ahead) : Bool :=
  let s := ahead.cursor.rest
  !interrupts s ahead.isCurrent && !(ahead.isCurrent && (underlineLevel? s).isSome)

end Ahead

end Plumbline.Markdown
