import Plumbline.Glob.Match
import Plumbline.Text.Quoted

namespace Plumbline.Glob

/-- Characters that mean more than themselves in a regular expression. -/
def isOperator (c : Char) : Bool := "\\.+*?()|[]\x7b\x7d^$#&-~".toList.contains c

/-- A character in a regular expression. Beyond ASCII it is written by its bytes. -/
def escaped (c : Char) : List Char :=
  if c.toNat < 128 then if isOperator c then ['\\', c] else [c]
  else (bytesOf c).flatMap fun b => '\\' :: 'x' :: Text.hex b.toNat

def escapedRange (range : Char × Char) : List Char :=
  if range.1 = range.2 then escaped range.1 else escaped range.1 ++ '-' :: escaped range.2

mutual
/-- The regular expression of a token. -/
def Token.expression : Token → List Char
  | .literal c => escaped c
  | .any => ['.']
  | .many => ['.', '*']
  | .oneOf negated ranges => '[' :: (if negated then ['^'] else []) ++ ranges.flatMap escapedRange ++ [']']
  | .choice branches => match expressions branches with
    | [] => []
    | parts => "(?:".toList ++ ['|'].intercalate parts ++ [')']

def runExpression : List Token → List Char
  | [] => []
  | token :: rest => token.expression ++ runExpression rest

/-- The expressions of the branches that ask for something. -/
def expressions : List (List Token) → List (List Char)
  | [] => []
  | branch :: rest => if isVoidRun branch then expressions rest else runExpression branch :: expressions rest
end

/-- The regular expression of a glob, which must match a whole name. -/
def expression (tokens : List Token) : String := String.ofList ("(?-u)^".toList ++ runExpression tokens ++ ['$'])

/-- How many items of an expression a token becomes. -/
def Token.itemCount : Token → Nat
  | .literal c => (bytesOf c).length
  | .choice branches => if areVoid branches then 0 else 1
  | _ => 1

/-- The level that several things in one place take. -/
def levelOf (count : Nat) : Nat := if 1 < count then 1 else 0

mutual
/-- How deep the expression of a token nests. A repetition, a set, a group, the branches of a choice and items in a row
are a level each. -/
def Token.depth : Token → Nat
  | .literal _ => 0
  | .any => 0
  | .many => 1
  | .oneOf _ ranges => 1 + levelOf (ranges.flatMap byteRanges).length
  | .choice branches =>
    if areVoid branches then 0 else 1 + levelOf (branches.countP (!isVoidRun ·)) + branchDepth branches

def runDepth : List Token → Nat
  | [] => 0
  | token :: rest => max token.depth (runDepth rest)

def branchDepth : List (List Token) → Nat
  | [] => 0
  | branch :: rest => max (levelOf (branch.map Token.itemCount).sum + runDepth branch) (branchDepth rest)
end

/-- Expressions may nest this deep. -/
def maxDepth : Nat := 250

/-- Whether the expression of a glob nests too deep. Its ends make it more than one item. -/
def isTooDeep (tokens : List Token) : Bool := maxDepth < 1 + runDepth tokens

/-- What a state of the automaton of an expression takes up. -/
def stateSize : Nat := 32

/-- What a range of bytes adds to its state. -/
def rangeSize : Nat := 8

/-- What each way out of a fork adds to its state. -/
def forkSize : Nat := 4

/-- The size of a set of bytes. No more than one byte is a single state. -/
def setSize (isInside : UInt8 → Bool) : Nat :=
  let bytes := (List.range 256).filter fun b => isInside (.ofNat b)
  if bytes.length ≤ 1 then stateSize
  else 2 * stateSize + rangeSize * bytes.countP fun b => b == 0 || !isInside (.ofNat (b - 1))

mutual
/-- The size of the automaton of a token. A choice counts all of its branches, whatever they have in common. -/
def Token.size : Token → Nat
  | .literal c => stateSize * c.utf8Size
  | .any => 2 * stateSize + rangeSize
  | .many => 3 * stateSize + rangeSize + 2 * forkSize
  | .oneOf negated ranges => setSize (inClass negated ranges)
  | .choice branches =>
    let count := branches.countP (!isVoidRun ·)
    (if 1 < count then 2 * stateSize + forkSize * count else 0) + branchSize branches

def runSize : List Token → Nat
  | [] => 0
  | token :: rest => token.size + runSize rest

def branchSize : List (List Token) → Nat
  | [] => 0
  | branch :: rest => runSize branch + branchSize rest
end

/-- Automata may grow this large. -/
def maxSize : Nat := 10485760

/-- Whether the automaton of a glob grows too large. It has six states beside those of the tokens. -/
def isTooLarge (tokens : List Token) : Bool := maxSize < 6 * stateSize + runSize tokens

/-- Whether the expression of a glob cannot be made use of. -/
def isRefused (tokens : List Token) : Bool := isTooDeep tokens || isTooLarge tokens

/-- What is said of an expression that cannot be made use of. -/
def refusal (tokens : List Token) : String :=
  if isTooDeep tokens then "error parsing pattern 0" else "error building NFA"

end Plumbline.Glob
