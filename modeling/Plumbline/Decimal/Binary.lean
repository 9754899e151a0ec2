namespace Plumbline.Decimal

/-- The magnitude `mantissa * 2 ^ exponent` of a finite double. -/
structure Binary where
  mantissa : Nat
  exponent : Int
deriving DecidableEq, Repr

def isNegative (x : Float) : Bool := x.toBits.toNat / Nat.pow 2 63 == 1

/-- The smallest normal mantissa. -/
def leadingBit : Nat := Nat.pow 2 52

def Binary.ofFloat (x : Float) : Binary :=
  let fraction := x.toBits.toNat % leadingBit
  let scale := x.toBits.toNat / leadingBit % 2048
  if scale = 0 then ⟨fraction, -1074⟩ else ⟨leadingBit + fraction, (scale : Int) - 1075⟩

/-- Numerator and denominator of `n * 2 ^ e`. -/
def scaleTwo (n : Nat) (e : Int) : Nat × Nat := (n * Nat.pow 2 e.toNat, Nat.pow 2 (-e).toNat)

/-- Numerator and denominator of `n * 10 ^ e`. -/
def scaleTen (n : Nat) (e : Int) : Nat × Nat := (n * Nat.pow 10 e.toNat, Nat.pow 10 (-e).toNat)

/-- Order of two fractions with positive denominators. -/
def fractionLe (a b : Nat × Nat) : Bool := a.1 * b.2 ≤ b.1 * a.2

/-- The quotient rounded to the nearest whole number; a half goes to the even neighbour. -/
def roundHalfEven (numerator denominator : Nat) : Nat :=
  let whole := numerator / denominator
  let twice := 2 * (numerator % denominator)
  if twice < denominator then whole
  else if denominator < twice then whole + 1
  else if whole % 2 = 0 then whole else whole + 1

end Plumbline.Decimal
