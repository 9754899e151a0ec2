namespace Plumbline.Markdown

/-- White space within a line. -/
def isGap (c : Char) : Bool := c == ' ' || c == '\t' || c == '\x0b' || c == '\x0c'

/-- Line feeds and carriage returns. A carriage return with a line feed behind it is one line ending. -/
def isEnding (c : Char) : Bool := c == '\n' || c == '\r'

/-- White space of ASCII. -/
def isSpace (c : Char) : Bool := isGap c || isEnding c

/-- Blanks and tabs, which indent a line. -/
def isIndent (c : Char) : Bool := c == ' ' || c == '\t'

def isAsciiPunctuation (c : Char) : Bool :=
  c.toNat < 128 && !c.isAlphanum && 32 < c.toNat && c.toNat < 127

def skipGap (s : List Char) : List Char := s.dropWhile isGap

def skipIndent (s : List Char) : List Char := s.dropWhile isIndent

/-- The line ending at the front of a text. -/
def ending : List Char → List Char
  | '\r' :: '\n' :: _ => ['\r', '\n']
  | c :: _ => if isEnding c then [c] else []
  | [] => []

/-- What is left of a line up to its ending. -/
def lineHead (s : List Char) : List Char := s.takeWhile (!isEnding ·)

/-- The text below a line. -/
def belowLine (s : List Char) : List Char :=
  let s := s.dropWhile (!isEnding ·)
  s.drop (ending s).length

/-- Whether nothing is left of a line but its ending. -/
def isAtEnd (s : List Char) : Bool := s.head?.all isEnding

/-- Whether nothing but white space is left of a line. -/
def isBlankLine (s : List Char) : Bool := isAtEnd (skipGap s)

/-- The text below a line of which at most white space is left. -/
def belowBlank (s : List Char) : List Char :=
  let s := skipGap s
  s.drop (ending s).length

/-- The text up to the first line feed, with it, and the text behind. -/
def cutFeed (s : List Char) : List Char × List Char :=
  let before := s.takeWhile (· != '\n')
  match s.drop before.length with
  | '\n' :: rest => (before ++ ['\n'], rest)
  | rest => (before, rest)

end Plumbline.Markdown
