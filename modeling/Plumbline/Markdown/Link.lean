import Plumbline.Markdown.Glyph

namespace Plumbline.Markdown

/-- Skips white space with at most one passage to another line in it. -/
def skipSeparator (s : List Glyph) : List Glyph :=
  match Glyph.skipGap s with
  | .turn _ _ :: rest => Glyph.skipGap rest
  | rest => rest

/-- Reads a destination in angle brackets behind the first of them. -/
def readBracketed : List Glyph → Option (List Glyph)
  | [] => none
  | .turn _ _ :: _ => none
  | .char '>' :: s => some s
  | .char '\\' :: .char c :: s => if isAsciiPunctuation c then readBracketed s else readBracketed (.char c :: s)
  | .char c :: s => if c = '<' then none else readBracketed s

/-- How many parentheses may be open where another one opens in a destination. -/
def mostNested : Nat := 32

/-- Reads a destination without brackets up to white space or an unmatched parenthesis. -/
def readBare : Nat → List Glyph → Option (List Glyph)
  | depth, .char '\\' :: .char c :: s =>
    if isAsciiPunctuation c then readBare depth s else readBare depth (.char c :: s)
  | depth, .char c :: s =>
    if c.toNat ≤ 32 then if depth = 0 then some (.char c :: s) else none
    else if c = '(' then if mostNested < depth then none else readBare (depth + 1) s
    else if c = ')' then if depth = 0 then some (.char c :: s) else readBare (depth - 1) s
    else readBare depth s
  | depth, s => if depth = 0 then some s else none

/-- Reads the destination of a link. -/
def readDestination : List Glyph → Option (List Glyph)
  | .char '<' :: s => readBracketed s
  | s => readBare 0 s

/-- Reads the rest of a title up to the character that closes it. A title in parentheses holds no further one. In an
inline link a backslash at the front of a line escapes nothing. -/
def readTitleRest (isInline : Bool) (opening closing : Char) : List Glyph → Option (List Glyph)
  | [] => none
  | .turn _ _ :: .char '\\' :: .char c :: s =>
    if isInline && isAsciiPunctuation c then readTitleRest isInline opening closing (.char c :: s)
    else readTitleRest isInline opening closing (.char '\\' :: .char c :: s)
  | .turn _ _ :: s => readTitleRest isInline opening closing s
  | .char '\\' :: .char c :: s =>
    if isAsciiPunctuation c then readTitleRest isInline opening closing s
    else readTitleRest isInline opening closing (.char c :: s)
  | .char c :: s =>
    if c = closing then some s else if c = opening then none else readTitleRest isInline opening closing s

/-- Reads the title of a link. -/
def readTitle (isInline : Bool) : List Glyph → Option (List Glyph)
  | .char '\x22' :: s => readTitleRest isInline '\x22' '\x22' s
  | .char '\x27' :: s => readTitleRest isInline '\x27' '\x27' s
  | .char '(' :: s => readTitleRest isInline '(' ')' s
  | _ => none

/-- Reads the destination and title of an inline link in parentheses. -/
def readInlineLink : List Glyph → Option (List Glyph)
  | .char '(' :: s => do
    let afterDestination := skipSeparator (← readDestination (skipSeparator s))
    let rest := match readTitle true afterDestination with
      | some rest => skipSeparator rest
      | none => afterDestination
    Glyph.after? [')'] rest
  | _ => none

end Plumbline.Markdown
