import Flowprint.Decimal.Double

/-! A double is written with the fewest digits that round to it, and with the nearest of those. -/

namespace Flowprint

/-- The digits of a number without zeros at the end, and where the point stands among them. -/
structure Significant where
  /-- The digits. -/
  digits : List Char
  /-- How many of the digits, or of zeros after them, stand before the point. -/
  point : Int
  deriving DecidableEq, Repr

namespace Significant

/-- A mantissa times a power of ten by its digits; zero keeps one digit. -/
def ofScaled (mantissa : Nat) (exponent : Int) : Significant :=
  let digits := Nat.toDigits 10 mantissa
  if mantissa = 0 then ⟨digits, 1⟩
  else ⟨(digits.reverse.dropWhile (· = '0')).reverse, digits.length + exponent⟩

end Significant

namespace Double

/-- The least power of ten that a double other than zero is below. -/
def order (double : Double) : Int :=
  -- Below one, the reciprocal has as many digits as there are zeros in front, and one more.
  if unitsPerOne ≤ double.units then (Nat.toDigits 10 (double.units / unitsPerOne)).length
  else 1 - ((Nat.toDigits 10 (unitsPerOne / double.units)).length : Int)

/-- The multiple of a power of ten that is next to a double and rounds to it, if there is one. -/
def onGrid? (double : Double) (exponent : Int) : Option Nat :=
  -- Of the two neighbours the nearer one is tried first.
  let (grid, unit) := Decimal.ratio 1 exponent
  let numerator := double.units * unit
  let denominator := unitsPerOne * grid
  let below := numerator / denominator
  [roundToEven numerator denominator, below, below + 1].find? fun mantissa =>
    let (numerator, denominator) := Decimal.ratio mantissa exponent
    ofRatio numerator denominator = double

/-- The fewest digits that round to a double. -/
def shortest (double : Double) : Significant :=
  -- The grids grow finer, and one with seventeen digits always has a hit.
  if double = zero then .ofScaled 0 0
  else
    let hit := (List.range 17).findSome? fun (finer : Nat) =>
      let exponent := double.order - 1 - finer
      (double.onGrid? exponent).map fun mantissa => Significant.ofScaled mantissa exponent
    hit.getD (.ofScaled (double.units * Nat.pow 5 1074) (-1074))

end Double

end Flowprint
