import Plumbline.Json.Number

namespace Plumbline.Json

/-- One hexadecimal digit in lower case. -/
def hexDigit (n : Nat) : Char := Nat.digitChar n

/-- How a character stands in a string: quotes, backslashes and control characters are escaped, and nothing else. -/
def escapedChar (c : Char) : List Char :=
  if c = '\x22' then ['\\', '\x22']
  else if c = '\\' then ['\\', '\\']
  else if c = '\x08' then ['\\', 'b']
  else if c = '\x0c' then ['\\', 'f']
  else if c = '\n' then ['\\', 'n']
  else if c = '\r' then ['\\', 'r']
  else if c = '\t' then ['\\', 't']
  else if c.toNat < 32 then ['\\', 'u', '0', '0', hexDigit (c.toNat / 16), hexDigit (c.toNat % 16)]
  else [c]

def stringText (s : String) : List Char := '\x22' :: s.toList.flatMap escapedChar ++ ['\x22']

/-- A new line indented by two blanks for each level. -/
def newLine (level : Nat) : List Char := '\n' :: List.replicate (2 * level) ' '

mutual
/-- A value laid out over several lines, one item or member a line. -/
def layOut (level : Nat) : Json → List Char
  | .null => "null".toList
  | .bool true => "true".toList
  | .bool false => "false".toList
  | .number n => n.text.toList
  | .string s => stringText s
  | .array [] => ['[', ']']
  | .array (v :: rest) =>
    '[' :: newLine (level + 1) ++ layOut (level + 1) v ++ layOutItems level rest ++ newLine level ++ [']']
  | .object [] => ['\x7b', '\x7d']
  | .object ((key, v) :: rest) =>
    '\x7b' :: newLine (level + 1) ++ stringText key ++ [':', ' '] ++ layOut (level + 1) v ++
      layOutMembers level rest ++ newLine level ++ ['\x7d']
  | .unreadable => "null".toList

def layOutItems (level : Nat) : List Json → List Char
  | [] => []
  | v :: rest => ',' :: newLine (level + 1) ++ layOut (level + 1) v ++ layOutItems level rest

def layOutMembers (level : Nat) : List (String × Json) → List Char
  | [] => []
  | (key, v) :: rest =>
    ',' :: newLine (level + 1) ++ stringText key ++ [':', ' '] ++ layOut (level + 1) v ++ layOutMembers level rest
end

/-- The text of a value for people to read. -/
def pretty (v : Json) : String := String.ofList (layOut 0 v)

end Plumbline.Json
