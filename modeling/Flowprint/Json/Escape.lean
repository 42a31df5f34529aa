/-! Inside a JSON string some characters are written as escapes, and reading undoes every escape. -/

namespace Flowprint.Json

/-- The digit that stands for a value below sixteen. -/
def hexDigit (value : Nat) : Char := Nat.digitChar value

/-- The value of a hexadecimal digit in either case. -/
def hexValue? (c : Char) : Option Nat :=
  if '0' ≤ c ∧ c ≤ '9' then some (c.toNat - '0'.toNat)
  else if 'a' ≤ c ∧ c ≤ 'f' then some (c.toNat - 'a'.toNat + 10)
  else if 'A' ≤ c ∧ c ≤ 'F' then some (c.toNat - 'A'.toNat + 10)
  else none

/-- The number that four hexadecimal digits write. -/
def unit? (a b c d : Char) : Option Nat := do
  let a ← hexValue? a
  let b ← hexValue? b
  let c ← hexValue? c
  let d ← hexValue? d
  return ((a * 16 + b) * 16 + c) * 16 + d

/-- The character behind a one-letter escape. -/
def shortEscape? (mark : Char) : Option Char :=
  if mark = '"' then some '"'
  else if mark = '\\' then some '\\'
  else if mark = '/' then some '/'
  else if mark = 'b' then some '\x08'
  else if mark = 'f' then some '\x0c'
  else if mark = 'n' then some '\n'
  else if mark = 'r' then some '\r'
  else if mark = 't' then some '\t'
  else none

/-- A unit that opens a surrogate pair. -/
def isHigh (unit : Nat) : Bool := 0xD800 ≤ unit && unit < 0xDC00

/-- A unit that closes a surrogate pair. -/
def isLow (unit : Nat) : Bool := 0xDC00 ≤ unit && unit < 0xE000

/-- The character that a surrogate pair stands for. -/
def pairChar (high low : Nat) : Char :=
  Char.ofNat (0x10000 + (high - 0xD800) * 0x400 + (low - 0xDC00))

/--
The text behind the inside of a string.

A control character has to be escaped, and a surrogate has to stand in a pair.
-/
def unescape : List Char → Option (List Char)
  -- A unit of four digits is tried first, and then the escapes of one letter.
  | [] => some []
  | '\\' :: 'u' :: a :: b :: c :: d :: rest => do
    let unit ← unit? a b c d
    if isHigh unit then
      match rest with
      | '\\' :: 'u' :: e :: f :: g :: h :: rest => do
        let low ← unit? e f g h
        if isLow low then return pairChar unit low :: (← unescape rest) else none
      | _ => none
    else if isLow unit then none
    else return Char.ofNat unit :: (← unescape rest)
  | '\\' :: mark :: rest => do
    let c ← shortEscape? mark
    return c :: (← unescape rest)
  | c :: rest =>
    if c = '\\' ∨ c.toNat < 0x20 then none
    else do return c :: (← unescape rest)

/-- One character as it is written inside a string. -/
def escapeChar (c : Char) : List Char :=
  -- Controls without a letter of their own are written by number, and all else stands for itself.
  if c = '"' then ['\\', '"']
  else if c = '\\' then ['\\', '\\']
  else if c = '\x08' then ['\\', 'b']
  else if c = '\x0c' then ['\\', 'f']
  else if c = '\n' then ['\\', 'n']
  else if c = '\r' then ['\\', 'r']
  else if c = '\t' then ['\\', 't']
  else if c.toNat < 0x20 then
    ['\\', 'u', '0', '0', hexDigit (c.toNat / 16), hexDigit (c.toNat % 16)]
  else [c]

/-- A text as it is written inside a string. -/
def escape (text : List Char) : List Char := text.flatMap escapeChar

end Flowprint.Json
