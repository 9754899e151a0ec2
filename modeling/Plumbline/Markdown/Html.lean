import Plumbline.Markdown.Glyph
import Plumbline.Text.Case
import Plumbline.Text.Search

namespace Plumbline.Markdown.Html

/-- Letters, digits and dashes, of which tag names are made. -/
def isTagChar (c : Char) : Bool := c.isAlphanum || c == '-'

def isAttributeStart (c : Char) : Bool := c.isAlpha || c == '_' || c == ':'

def isAttributeChar (c : Char) : Bool := c.isAlphanum || "_.:-".toList.contains c

/-- Characters that attribute values without quotes are made of. -/
def isBareChar (c : Char) : Bool := !(isEnding c || " \x22\x27=<>\x60".toList.contains c)

def readValue : List Glyph → Option (List Glyph)
  | .char c :: s =>
    if c = '\x22' || c = '\x27' then Glyph.afterFirst? [c] s
    else if isBareChar c then some (s.dropWhile (Glyph.satisfies isBareChar))
    else none
  | _ => none

/-- Reads the name of an attribute and its value, if it has one. -/
def readAttribute : List Glyph → Option (List Glyph)
  | .char c :: s =>
    if isAttributeStart c then
      let rest := s.dropWhile (Glyph.satisfies isAttributeChar)
      match rest.dropWhile Glyph.isSpace with
      | .char '=' :: value => readValue (value.dropWhile Glyph.isSpace)
      | _ => some rest
    else none
  | _ => none

/-- Reads attributes, each behind white space, and the end of the tag. `fuel` bounds their number. -/
def readAttributes : Nat → List Glyph → Option (List Glyph)
  | 0, _ => none
  | fuel + 1, s => match s.dropWhile Glyph.isSpace with
    | .char '>' :: rest => some rest
    | .char '/' :: .char '>' :: rest => some rest
    | .char '/' :: _ => none
    | inner => if inner.length = s.length then none else (readAttribute inner).bind (readAttributes fuel)

/-- Reads a tag behind its opening bracket. -/
def readTag : List Glyph → Option (List Glyph)
  | .char '/' :: .char c :: s =>
    if c.isAlpha then Glyph.after? ['>'] (Glyph.skipGap (s.dropWhile (Glyph.satisfies isTagChar))) else none
  | .char c :: s =>
    if c.isAlpha then readAttributes (s.length + 1) (s.dropWhile (Glyph.satisfies isTagChar)) else none
  | _ => none

/-- Reads a comment behind the two dashes that open it. -/
def readComment : List Glyph → Option (List Glyph)
  | .char '>' :: s => some s
  | .char '-' :: .char '>' :: s => some s
  | s => Glyph.afterFirst? "-->".toList s

/-- Reads a section of raw characters behind its opening. A row of closing brackets ends it, and there must be no other
row in it. -/
def readRaw (s : List Glyph) : Option (List Glyph) :=
  match s.dropWhile (!·.is ']') with
  | [] => none
  | rest => Glyph.after? ['>'] (rest.dropWhile (·.is ']'))

/-- Reads a declaration, which the mark of a quote ends too. `tail` stands behind the text. -/
def readDeclaration (tail : List Char) : List Glyph → Option (List Glyph)
  | [] => if tail.contains '>' then some [] else none
  | glyph :: s => if glyph.chars.contains '>' then some s else readDeclaration tail s

/-- Reads a tag, a comment, an instruction, a declaration or a section of raw characters behind its opening bracket, in
a text in front of `tail`. -/
def readInline (tail : List Char) : List Glyph → Option (List Glyph)
  | .char '?' :: s => Glyph.afterFirst? "?>".toList s
  | .char '!' :: .char '-' :: .char '-' :: s => readComment s
  | .char '!' :: s => match Glyph.after? "[CDATA[".toList s with
    | some rest => readRaw rest
    | none => if s.head?.any (Glyph.satisfies Char.isAlpha) then readDeclaration tail s else none
  | s => readTag s

/-- Tags whose content is left alone up to a closing tag of the same name. -/
def rawTags : List String := ["pre", "style", "script", "textarea"]

/-- Whether a text begins with the name of a tag in either case and the name ends there. -/
def opens (s : List Char) (tag : String) : Bool :=
  match Text.after? tag.toList (Text.asciiLower (s.take tag.length) ++ s.drop tag.length) with
  | some [] => true
  | some (c :: _) => isSpace c || c == '>'
  | none => false

/-- What ends a block that holds anything, blank lines too, by the text behind its opening bracket. -/
def blockEnd? (s : List Char) : Option (List Char) :=
  match rawTags.find? (opens s) with
  | some tag => some ("</".toList ++ tag.toList ++ ['>'])
  | none => match s with
    | '!' :: '-' :: '-' :: _ => some "-->".toList
    | '?' :: _ => some "?>".toList
    | '!' :: rest =>
      if Text.startsWith "[CDATA[".toList rest then some "]]>".toList
      else if rest.head?.any Char.isAlpha then some ['>']
      else none
    | _ => none

/-- Tags that open a block up to the next blank line. -/
def blockTags : List String := [
  "address", "article", "aside", "base", "basefont", "blockquote", "body", "caption", "center", "col", "colgroup", "dd",
  "details", "dialog", "dir", "div", "dl", "dt", "fieldset", "figcaption", "figure", "footer", "form", "frame",
  "frameset", "h1", "h2", "h3", "h4", "h5", "h6", "head", "header", "hr", "html", "iframe", "legend", "li", "link",
  "main", "menu", "menuitem", "nav", "noframes", "ol", "optgroup", "option", "p", "param", "search", "section",
  "summary", "table", "tbody", "td", "tfoot", "th", "thead", "title", "tr", "track", "ul"]

/-- Whether one of the block tags stands behind an opening bracket. -/
def opensBlock (s : List Char) : Bool :=
  let s := (Text.after? ['/'] s).getD s
  let name := Text.asciiLower (s.takeWhile Char.isAlphanum)
  blockTags.contains (String.ofList name) && match s.dropWhile Char.isAlphanum with
    | [] => true
    | '/' :: '>' :: _ => true
    | c :: _ => isIndent c || isEnding c || c == '>'

/-- Whether a line, given behind its opening bracket, is a single whole tag. -/
def isLoneTag (s : List Char) : Bool :=
  (readTag (Glyph.ofChars (lineHead s))).any fun rest => (Glyph.skipGap rest).isEmpty

end Plumbline.Markdown.Html
