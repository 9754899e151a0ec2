import Plumbline.Text.Case
import Plumbline.Text.Lines

namespace Plumbline.Text

/-- What stands for a character in a name: letters and numbers in lower case, an underscore for anything else. -/
def slugChar (c : Char) : List Char := if isAlphanumeric c || c == '_' then lowerChar c else ['_']

/-- Free text made into a part of a name. No underscore stays at either end. -/
def slug (s : List Char) : List Char := stripWhile (· == '_') ((trim s).flatMap slugChar)

end Plumbline.Text
