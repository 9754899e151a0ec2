import Plumbline.Text.Ranges

namespace Plumbline.Text

/-- White space. -/
def isBlank (c : Char) : Bool := blankRanges.contains c

/-- Letters and numbers of any script. -/
def isAlphanumeric (c : Char) : Bool :=
  if c.toNat < 128 then c.isAlphanum else alphabeticRanges.contains c || numericRanges.contains c

/-- Decimal digits of any script. -/
def isDecimal (c : Char) : Bool := if c.toNat < 128 then c.isDigit else decimalRanges.contains c

/-- The characters identifiers are made of: letters, marks, decimal digits and connectors. -/
def isWord (c : Char) : Bool := if c.toNat < 128 then c.isAlphanum || c == '_' else wordRanges.contains c

def isPunctuation (c : Char) : Bool := punctuationRanges.contains c

def isCased (c : Char) : Bool := if c.toNat < 128 then c.isAlpha else casedRanges.contains c

def isCaseIgnorable (c : Char) : Bool := caseIgnorableRanges.contains c

def isQuote (c : Char) : Bool := c == '\x27' || c == '\x22'

/-- Characters that a quotation shows as they are: neither invisible nor merged into the character before. -/
def isShown (c : Char) : Bool :=
  if c.toNat < 128 then 32 ≤ c.toNat && c.toNat < 127
  else !graphemeExtendRanges.contains c && !unprintableRanges.contains c

end Plumbline.Text
