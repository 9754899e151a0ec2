import Plumbline.Decimal.Binary

namespace Plumbline.Decimal

/-- A whole number of units of `10 ^ -places`, written with a decimal point. -/
def pointed (places units : Nat) : String :=
  let digits := toString units
  let digits := "".pushn '0' (places + 1 - digits.length) ++ digits
  if places = 0 then digits
  else String.ofList (digits.toList.take (digits.length - places)) ++ "." ++
    String.ofList (digits.toList.drop (digits.length - places))

/-- A double written with a fixed number of decimal places. The exact binary value is rounded, and a half goes to the
even neighbour. -/
def withPlaces (places : Nat) (x : Float) : String :=
  if x.isNaN then "NaN"
  else (if isNegative x then "-" else "") ++
    if x.isInf then "inf"
    else
      let value := Binary.ofFloat x
      let (numerator, denominator) := scaleTwo value.mantissa value.exponent
      pointed places (roundHalfEven (numerator * Nat.pow 10 places) denominator)

end Plumbline.Decimal
