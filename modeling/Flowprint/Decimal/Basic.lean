/-! A decimal is a number with a point or an exponent, kept exactly as it was written. -/

namespace Flowprint

/-- A sign, a mantissa, and the power of ten by which it is multiplied. -/
structure Decimal where
  /-- A minus sign stands in front, which even zero can have. -/
  negative : Bool
  /-- The mantissa without its sign. -/
  mantissa : Nat
  /-- The exponent of ten. -/
  exponent : Int
  deriving DecidableEq, Repr

namespace Decimal

/-- A mantissa times a power of ten as a numerator over a denominator. -/
def ratio (mantissa : Nat) (exponent : Int) : Nat × Nat :=
  -- One of the two powers is always one.
  (mantissa * Nat.pow 10 exponent.toNat, Nat.pow 10 (-exponent).toNat)

/-- The least power of ten that the number is below, unless it is zero. -/
def order (mantissa : Nat) (exponent : Int) : Int :=
  (Nat.toDigits 10 mantissa).length + exponent

/-- Half a unit above the largest double: at and beyond it a number rounds to infinity. -/
def overflow : Nat := Nat.pow 2 1024 - Nat.pow 2 970

/--
Whether a mantissa times a power of ten stays below the overflow.

The order settles all but one power of ten, so a huge exponent costs nothing.
-/
def belowOverflow (mantissa : Nat) (exponent : Int) : Bool :=
  let order := order mantissa exponent
  if mantissa = 0 ∨ order ≤ 308 then true
  else if 310 ≤ order then false
  else
    let (numerator, denominator) := ratio mantissa exponent
    numerator < overflow * denominator

/-- The decimal is finite when it does not round to infinity as a double. -/
def isFinite (decimal : Decimal) : Bool := belowOverflow decimal.mantissa decimal.exponent

end Decimal

end Flowprint
