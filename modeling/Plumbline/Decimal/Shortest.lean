import Plumbline.Decimal.Binary

namespace Plumbline.Decimal

/-- The reals that round to a double, in units of a quarter of its last place: `low` and `high` are the midpoints to
its neighbours, which belong to it exactly when its mantissa is even. -/
structure Basin where
  low : Nat
  middle : Nat
  high : Nat
  unit : Int
  closed : Bool

/-- Below a power of two the neighbour is only half as far away. -/
def Binary.basin (value : Binary) : Basin where
  low := 4 * value.mantissa - if value.mantissa = leadingBit && -1074 < value.exponent then 1 else 2
  middle := 4 * value.mantissa
  high := 4 * value.mantissa + 2
  unit := value.exponent - 2
  closed := value.mantissa % 2 == 0

/-- Whether `digits * 10 ^ exponent` rounds to the double. -/
def Basin.holds (basin : Basin) (digits : Nat) (exponent : Int) : Bool :=
  let point := scaleTen digits exponent
  let low := scaleTwo basin.low basin.unit
  let high := scaleTwo basin.high basin.unit
  if basin.closed then fractionLe low point && fractionLe point high
  else !fractionLe point low && !fractionLe high point

/-- The multiple of `10 ^ exponent` nearest to the double among its two neighbours that round to it. -/
def Basin.onGrid? (basin : Basin) (exponent : Int) : Option Nat :=
  let middle := scaleTwo basin.middle basin.unit
  let step := scaleTen 1 exponent
  let numerator := middle.1 * step.2
  let denominator := middle.2 * step.1
  let below := numerator / denominator
  match 0 < below && basin.holds below exponent, basin.holds (below + 1) exponent with
  | true, true => some (roundHalfEven numerator denominator)
  | true, false => some below
  | false, true => some (below + 1)
  | false, false => none

/-- The first grid that has a point in the basin, from the coarsest on. -/
def Basin.search (basin : Basin) : Nat → Int → Nat × Int
  | 0, exponent => (basin.middle, exponent)
  | fuel + 1, exponent => match basin.onGrid? exponent with
    | some digits => (digits, exponent)
    | none => basin.search fuel (exponent - 1)

/-- The fewest decimal digits that read back as the double, and the power of ten that scales them. The search starts
above the double's order of magnitude; seventeen digits always suffice. -/
def Binary.shortest (value : Binary) : Nat × Int :=
  if value.mantissa = 0 then (0, 0)
  else value.basin.search 40 (((value.mantissa.log2 : Int) + value.exponent) * 30103 / 100000 + 2)

end Plumbline.Decimal
