import Plumbline.Decimal.Shortest
import Plumbline.Json.Basic

namespace Plumbline.Json

/-- The largest whole number a JSON reader keeps exactly. -/
def maxNatural : Nat := Nat.pow 2 64 - 1

/-- The fraction and exponent of a literal after its whole part. -/
structure Literal where
  whole : List Char
  fraction : Option (List Char)
  exponent : Option (Bool × List Char)

def digitValue (c : Char) : Nat := c.toNat - '0'.toNat

/-- Reads digits onto `significand` while the result fits 64 bits, and returns the digits that did not fit. -/
def gather (significand : Nat) : List Char → Nat × List Char
  | [] => (significand, [])
  | c :: rest =>
    if significand * 10 + digitValue c ≤ maxNatural then gather (significand * 10 + digitValue c) rest
    else (significand, c :: rest)

/-- A power of ten as a double. -/
def powerOfTen (n : Nat) : Float := OfScientific.ofScientific 1 false n

/-- Scales by a power of ten in one step, or in steps of `10 ^ 308` when the power is smaller than any double's. -/
def scaleDown : Nat → Float → Nat → Float
  | 0, x, _ => x
  | fuel + 1, x, n =>
    if n ≤ 308 then x / powerOfTen n else if x == 0 then x else scaleDown fuel (x / powerOfTen 308) (n - 308)

/-- The double nearest in one rounding step to `significand * 10 ^ exponent`, if it is finite. -/
def scaled? (significand : Nat) (exponent : Int) : Option Float :=
  let x := significand.toUInt64.toFloat
  if exponent < 0 then some (scaleDown 8 x exponent.natAbs)
  else if exponent ≤ 308 then
    let product := x * powerOfTen exponent.toNat
    if product.isInf then none else some product
  else if x == 0 then some x else none

/-- The exponent of a literal, when it is small enough to count with. -/
def exponentOf (digits : List Char) : Option Nat :=
  let n := digits.foldl (fun n c => n * 10 + digitValue c) 0
  if n ≤ 2147483647 then some n else none

/-- The double of a literal: digits as long as they fit 64 bits, scaled by one power of ten. Digits of the whole part
that do not fit raise the power. The fraction is tried anew, and its digits that fit lower the power. -/
def Literal.double? (literal : Literal) : Option Float :=
  let (significand, dropped) := gather 0 literal.whole
  let fraction := literal.fraction.getD []
  let (significand, unused) := gather significand fraction
  let power : Int := dropped.length - (fraction.length - unused.length : Nat)
  match literal.exponent with
  | none => scaled? significand power
  | some (down, digits) => match exponentOf digits with
    | some n => scaled? significand (if down then power - n else power + n)
    | none => if significand ≠ 0 && !down then none else some 0

/-- The number of a literal. Only a whole one that fits 64 bits stays whole; minus nought is a double. -/
def Literal.number? (literal : Literal) (minus : Bool) : Option Number :=
  let magnitude := literal.whole.foldl (fun n c => n * 10 + digitValue c) 0
  let double := (literal.double?).map fun x => Number.double (if minus then -x else x)
  if literal.fraction.isSome || literal.exponent.isSome then double
  else if minus then if 0 < magnitude && magnitude ≤ Nat.pow 2 63 then some (.negative magnitude) else double
  else if magnitude ≤ maxNatural then some (.natural magnitude) else double

/-- Positional notation serves numbers from `10 ^ -5` up to `10 ^ 16`; a whole double keeps one nought after the
point. -/
def doubleText (x : Float) : String :=
  let (significand, power) := (Decimal.Binary.ofFloat x).shortest
  let digits := toString significand
  let point : Int := digits.length + power
  let sign := if Decimal.isNegative x then "-" else ""
  let text :=
    if significand = 0 then "0.0"
    else if -5 < point && point ≤ 0 then "0." ++ "".pushn '0' (-point).toNat ++ digits
    else if 0 < point && point ≤ 16 then
      if 0 ≤ power then digits ++ "".pushn '0' power.toNat ++ ".0"
      else String.ofList (digits.toList.take point.toNat) ++ "." ++ String.ofList (digits.toList.drop point.toNat)
    else
      let tail := String.ofList (digits.toList.drop 1)
      String.ofList (digits.toList.take 1) ++ (if tail.isEmpty then "" else "." ++ tail) ++
        (if 0 < point then "e+" else "e-") ++ toString (point - 1).natAbs
  sign ++ text

/-- Doubles that are not finite have no literal and are written as null. -/
def Number.text : Number → String
  | .natural n => toString n
  | .negative n => "-" ++ toString n
  | .double x => if x.isNaN || x.isInf then "null" else doubleText x

end Plumbline.Json
