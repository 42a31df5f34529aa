import Flowprint.Instruction
import Flowprint.Text.Printable

/-! A quotation shows a text between quotes, with an escape for every character that has no form. -/

namespace Flowprint

namespace Text

/-- Single quotes, unless the text holds a single quote and no double one. -/
def quoteFor (text : List Char) : Char :=
  -- The choice saves escapes where it can.
  if '\x27' ∈ text ∧ '"' ∉ text then '"' else '\x27'

/-- The last digits of a number in base sixteen. -/
def hexDigits (value : Nat) : Nat → List Char
  | 0 => []
  | places + 1 => hexDigits (value / 16) places ++ [Nat.digitChar (value % 16)]

/-- An escape has two digits, four or eight, whichever is the least that suffices. -/
def codeEscape (code : Nat) : List Char :=
  if code < 0x100 then '\\' :: 'x' :: hexDigits code 2
  else if code < 0x10000 then '\\' :: 'u' :: hexDigits code 4
  else '\\' :: 'U' :: hexDigits code 8

/-- One character as it stands between the given quotes. -/
def quoteChar (quote c : Char) : List Char :=
  if c = quote ∨ c = '\\' then ['\\', c]
  else if c = '\n' then ['\\', 'n']
  else if c = '\r' then ['\\', 'r']
  else if c = '\t' then ['\\', 't']
  else if isPrintable c then [c]
  else codeEscape c.toNat

/-- A text between quotes. -/
def quoteChars (text : List Char) : List Char :=
  let quote := quoteFor text
  quote :: (text.flatMap (quoteChar quote) ++ [quote])

/-- A text between quotes. -/
def quoted (text : String) : String := String.ofList (quoteChars text.toList)

end Text

/-- The form of an instruction that shows exactly which texts it is made of. -/
def Instruction.quoted (instruction : Instruction) : String :=
  "Instruction(" ++ Text.quoted instruction.mnemonic ++ ", [" ++
    ", ".intercalate (instruction.operands.map Text.quoted) ++ "])"

end Flowprint
