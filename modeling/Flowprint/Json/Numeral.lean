import Flowprint.Decimal.Basic

/-! A JSON numeral is an optional minus sign, digits, and perhaps a fraction and an exponent. -/

namespace Flowprint.Json

/-- The number that a numeral writes, kept exact. -/
inductive Numeral where
  /-- A numeral with neither fraction nor exponent. -/
  | integer (value : Int)
  /-- Any other numeral. -/
  | decimal (value : Decimal)
  deriving DecidableEq, Repr

namespace Numeral

/-- Digits in base ten as a natural number. -/
def ofDigits (digits : List Char) : Nat := Nat.ofDigitChars 10 digits 0

/-- Splits off the digits at the front of a text. -/
def spanDigits (marks : List Char) : List Char × List Char :=
  (marks.takeWhile Char.isDigit, marks.dropWhile Char.isDigit)

/-- Splits a leading minus sign off a text. -/
def spanMinus : List Char → Bool × List Char
  | '-' :: rest => (true, rest)
  | marks => (false, marks)

/-- The value of an optional sign before a natural number. -/
def signed (negative : Bool) (magnitude : Nat) : Int :=
  if negative then -(magnitude : Int) else magnitude

/-- A whole part is one digit, or starts with a digit other than zero. -/
def wholePart (digits : List Char) : Bool :=
  -- A zero in front of other digits is refused.
  match digits with
  | [] => false
  | [_] => true
  | first :: _ => first != '0'

/-- The digits after a point, if there is a point; a point without digits is refused. -/
def fraction? : List Char → Option (List Char × List Char)
  | '.' :: rest =>
    let (digits, rest) := spanDigits rest
    if digits.isEmpty then none else some (digits, rest)
  | marks => some ([], marks)

/-- The exponent, if there is an exponent mark; a mark without digits is refused. -/
def exponent? : List Char → Option (Option Int)
  | [] => some none
  | mark :: rest =>
    if mark = 'e' ∨ mark = 'E' then
      -- A sign is optional, and a plus sign says nothing.
      let (negative, rest) := match rest with
        | '+' :: rest => (false, rest)
        | '-' :: rest => (true, rest)
        | rest => (false, rest)
      if rest.isEmpty || !rest.all Char.isDigit then none
      else some (some (signed negative (ofDigits rest)))
    else none

/-- Reads a whole text as one numeral. -/
def read? (marks : List Char) : Option Numeral := do
  -- Sign, whole part, fraction and exponent follow each other, and nothing may be left.
  let (negative, rest) := spanMinus marks
  let (whole, rest) := spanDigits rest
  if !wholePart whole then none
  let (fraction, rest) ← fraction? rest
  let exponent ← exponent? rest
  match fraction, exponent with
  | [], none => return .integer (signed negative (ofDigits whole))
  | digits, exponent =>
    return .decimal ⟨negative, ofDigits (whole ++ digits), exponent.getD 0 - digits.length⟩

/-- A numeral is finite when it does not round to infinity as a double. -/
def finite : Numeral → Bool
  | .integer value => Decimal.belowOverflow value.natAbs 0
  | .decimal value => value.isFinite

/-- The numeral of an integer in base ten. -/
def writeInteger (value : Int) : List Char :=
  if value < 0 then '-' :: Nat.toDigits 10 value.natAbs else Nat.toDigits 10 value.natAbs

end Numeral

end Flowprint.Json
