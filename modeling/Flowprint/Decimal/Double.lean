import Flowprint.Decimal.Basic

/-! Every decimal rounds to the nearest double, computed exactly on natural numbers. -/

namespace Flowprint

/--
A double without its sign: a significand times a power of two, counted in the smallest unit.

The smallest unit is two to the power of minus 1074, so no exponent is negative.
-/
structure Double where
  /-- The significand, which has at most 53 bits. -/
  significand : Nat
  /-- The exponent of two above the smallest unit. -/
  scale : Nat
  deriving DecidableEq, Repr

namespace Double

/-- How many of the smallest units make one. -/
def unitsPerOne : Nat := Nat.pow 2 1074

/-- The quotient of two numbers rounded to the nearest one, and to the even one of two as near. -/
def roundToEven (numerator denominator : Nat) : Nat :=
  let quotient := numerator / denominator
  let rest := numerator % denominator
  if 2 * rest < denominator then quotient
  else if denominator < 2 * rest then quotient + 1
  else if quotient % 2 = 0 then quotient
  else quotient + 1

/-- The scale at which a number of units over a denominator has 53 bits, or the smallest scale. -/
def scaleOf (units denominator : Nat) : Nat :=
  -- The binary logarithms miss the scale by one at most.
  let guess := Nat.log2 units - (Nat.log2 denominator + 52)
  if 0 < guess ∧ units < denominator * Nat.pow 2 (guess + 52) then guess - 1 else guess

/-- The double that is nearest to a numerator over a denominator, however large it is. -/
def ofRatio (numerator denominator : Nat) : Double :=
  let units := numerator * unitsPerOne
  let scale := scaleOf units denominator
  let significand := roundToEven units (denominator * Nat.pow 2 scale)
  -- Rounding up can reach a bit too many, and all the others are zero then.
  if significand = Nat.pow 2 53 then ⟨Nat.pow 2 52, scale + 1⟩ else ⟨significand, scale⟩

/-- Zero. -/
def zero : Double := ⟨0, 0⟩

/-- The units that make up the double. -/
def units (double : Double) : Nat := double.significand * Nat.pow 2 double.scale

end Double

/-- The double that is nearest to a decimal, if that is finite. -/
def Decimal.double? (decimal : Decimal) : Option Double :=
  -- Below the order of the smallest unit everything rounds to zero, without any large power.
  if !decimal.isFinite then none
  else if decimal.mantissa = 0 ∨ order decimal.mantissa decimal.exponent ≤ -324 then some .zero
  else
    let (numerator, denominator) := ratio decimal.mantissa decimal.exponent
    some (.ofRatio numerator denominator)

/-- The decimal is zero as a double. -/
def Decimal.isZero (decimal : Decimal) : Bool := decimal.double? = some .zero

end Flowprint
