import Plumbline.Text.Search

namespace Plumbline.Source

open Plumbline.Text

/-- The text up to the parenthesis that closes `depth` open ones, and the text from that parenthesis on, which is
missing when nothing closes them. -/
def untilClosed (depth : Nat) : List Char → List Char × Option (List Char)
  | [] => ([], none)
  | c :: s =>
    if c = ')' && depth ≤ 1 then ([], some (c :: s))
    else
      let (inside, rest) := untilClosed (if c = '(' then depth + 1 else if c = ')' then depth - 1 else depth) s
      (c :: inside, rest)

/-- What a call to run code in a migration begins with. -/
def runCall : List Char := "RunPython(".toList

/-- The arguments of each such call, from left to right. `fuel` bounds their number. -/
def callsFrom : Nat → List Char → List (List Char)
  | 0, _ => []
  | fuel + 1, s => match cut? runCall s with
    | none => []
    | some (_, s) => match untilClosed 1 s with
      | (inside, none) => [inside]
      | (inside, some rest) => inside :: callsFrom fuel rest

def runCalls (text : String) : List String :=
  (callsFrom (text.length + 1) text.toList).map String.ofList

/-- Whether a comma stands outside all brackets. -/
def hasOuterComma : Int → List Char → Bool
  | _, [] => false
  | depth, c :: s =>
    if c = '(' || c = '[' || c = '\x7b' then hasOuterComma (depth + 1) s
    else if c = ')' || c = ']' || c = '\x7d' then hasOuterComma (depth - 1) s
    else if c = ',' && depth = 0 then true
    else hasOuterComma depth s

/-- Whether the arguments of a call name code that undoes it. -/
def isReversible (arguments : String) : Bool :=
  contains "reverse_code".toList arguments.toList || hasOuterComma 0 arguments.toList

end Plumbline.Source
