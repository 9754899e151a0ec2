import Plumbline.Glob.Pattern

namespace Plumbline.Glob

/-- The bytes of a character in UTF-8. -/
def bytesOf (c : Char) : List UInt8 := (String.singleton c).toUTF8.toList

/-- The byte sets of a range of characters. In a set the bytes of a character count one by one, so that the range runs
from the last byte of its first character to the first byte of its last one. -/
def byteRanges (range : Char × Char) : List (UInt8 × UInt8) :=
  let first := bytesOf range.1
  let last := bytesOf range.2
  let single (b : UInt8) := (b, b)
  if range.1 = range.2 then first.map single
  else (first.dropLast.map single) ++ [(first.getLastD 0, last.headD 0)] ++ (last.drop 1).map single

def inClass (negated : Bool) (ranges : List (Char × Char)) (b : UInt8) : Bool :=
  ((ranges.flatMap byteRanges).any fun r => r.1 ≤ b && b ≤ r.2) != negated

/-- A text and everything left of it after dropping bytes from its front. -/
def suffixes : List UInt8 → List (List UInt8)
  | [] => [[]]
  | b :: s => (b :: s) :: suffixes s

/-- What remains of a text that begins with `lead`. -/
def afterBytes : List UInt8 → List UInt8 → List (List UInt8)
  | [], s => [s]
  | _ :: _, [] => []
  | a :: lead, b :: s => if a = b then afterBytes lead s else []

mutual
/-- Whether a token asks for nothing at all, as a choice among nothing does. -/
def Token.isVoid : Token → Bool
  | .choice branches => areVoid branches
  | _ => false

def isVoidRun : List Token → Bool
  | [] => true
  | token :: rest => token.isVoid && isVoidRun rest

def areVoid : List (List Token) → Bool
  | [] => true
  | branch :: rest => isVoidRun branch && areVoid rest
end

mutual
/-- The ends of the matches of a token at the front of some bytes, as the bytes left over. -/
def Token.ends : Token → List UInt8 → List (List UInt8)
  | .literal c, s => afterBytes (bytesOf c) s
  | .any, s => s.tail?.toList
  | .many, s => suffixes s
  | .oneOf negated ranges, s => match s with
    | [] => []
    | b :: rest => if inClass negated ranges b then [rest] else []
  | .choice branches, s => if areVoid branches then [s] else choiceEnds branches s

/-- The ends for several tokens in a row, from any of several starts. -/
def sequenceEnds : List Token → List (List UInt8) → List (List UInt8)
  | [], starts => starts
  | token :: rest, starts => sequenceEnds rest (starts.flatMap token.ends).eraseDups

/-- The ends for any of the branches that ask for something. -/
def choiceEnds : List (List Token) → List UInt8 → List (List UInt8)
  | [], _ => []
  | branch :: rest, s => (if isVoidRun branch then [] else sequenceEnds branch [s]) ++ choiceEnds rest s
end

/-- Whether a glob matches the whole of a name. -/
def isMatch (tokens : List Token) (name : String) : Bool :=
  (sequenceEnds tokens [name.toUTF8.toList]).any List.isEmpty

end Plumbline.Glob
