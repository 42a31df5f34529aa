import Flowprint.Decimal.Shortest

/-! Doubles are laid out with a point among their digits, or with an exponent mark behind them. -/

namespace Flowprint

/-- The choices that a layout makes. -/
structure Layout where
  /-- The least exponent of the first digit that is written without an exponent mark. -/
  plainFrom : Int
  /-- The largest exponent of the first digit that is written without an exponent mark. -/
  plainTo : Int
  /-- How many digits an exponent has at least. -/
  exponentWidth : Nat
  /-- The text for infinity. -/
  infinity : List Char
  /-- Infinity has a sign. -/
  signedInfinity : Bool

namespace Layout

/-- Digits with a point among them; the point has a digit on both sides. -/
def plain (digits : List Char) (point : Int) : List Char :=
  if point ≤ 0 then '0' :: '.' :: (List.replicate (-point).toNat '0' ++ digits)
  else
    let whole := digits.take point.toNat
    let fraction := digits.drop point.toNat
    whole ++ List.replicate (point.toNat - whole.length) '0' ++
      '.' :: if fraction = [] then ['0'] else fraction

/-- An exponent with its sign, filled up with zeros. -/
def exponent (width : Nat) (value : Int) : List Char :=
  let digits := Nat.toDigits 10 value.natAbs
  (if value < 0 then '-' else '+') :: (List.replicate (width - digits.length) '0' ++ digits)

/-- Digits with a point after the first one, and the exponent of the first one behind them. -/
def scientific (width : Nat) (digits : List Char) (point : Int) : List Char :=
  let fraction := digits.drop 1
  digits.take 1 ++ (if fraction = [] then [] else '.' :: fraction) ++
    'e' :: exponent width (point - 1)

/-- A double in a layout, without its sign. -/
def magnitude (layout : Layout) (double : Double) : List Char :=
  let ⟨digits, point⟩ := double.shortest
  if layout.plainFrom ≤ point - 1 ∧ point - 1 ≤ layout.plainTo then plain digits point
  else scientific layout.exponentWidth digits point

/-- A decimal as the double that is nearest to it. -/
def write (layout : Layout) (decimal : Decimal) : List Char :=
  let sign := if decimal.negative then ['-'] else []
  match decimal.double? with
  | some double => sign ++ layout.magnitude double
  | none => (if layout.signedInfinity then sign else []) ++ layout.infinity

end Layout

end Flowprint
