import Plumbline.Text.Class
import Plumbline.Text.Search

namespace Plumbline.Text

/-- Puts a character in front of the first line. -/
def pushHead (c : Char) : List (List Char) → List (List Char)
  | [] => [[c]]
  | line :: rest => (c :: line) :: rest

/-- The lines of a text without their line breaks, which are a line feed with or without one carriage return before
it. Nothing after the last line break is no line. -/
def lines : List Char → List (List Char)
  | [] => []
  | '\n' :: s => [] :: lines s
  | '\r' :: '\n' :: s => [] :: lines s
  | c :: s => pushHead c (lines s)

/-- Strips white space from the front. -/
def trimStart (s : List Char) : List Char := s.dropWhile isBlank

/-- Strips white space from the end. -/
def trimEnd (s : List Char) : List Char := dropRightWhile isBlank s

def trim (s : List Char) : List Char := stripWhile isBlank s

/-- The pieces that white space separates. -/
def words (s : List Char) : List (List Char) := fields isBlank s

end Plumbline.Text
