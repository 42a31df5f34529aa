import Flowprint.Json.Escape
import Flowprint.Json.Numeral

/-! JSON text is first read as tokens: marks of structure, words, strings and numerals. -/

namespace Flowprint.Json

/-- The smallest meaningful part of a text; blanks between tokens mean nothing. -/
inductive Token where
  /-- An opening bracket. -/
  | openArray
  /-- A closing bracket. -/
  | closeArray
  /-- An opening brace. -/
  | openObject
  /-- A closing brace. -/
  | closeObject
  /-- A comma. -/
  | comma
  /-- A colon. -/
  | colon
  /-- The word for null. -/
  | null
  /-- A word for a truth value. -/
  | bool (value : Bool)
  /-- A string, its escapes undone. -/
  | string (text : String)
  /-- A number. -/
  | number (numeral : Numeral)
  deriving DecidableEq, Repr

namespace Token

/-- Numbers have to be finite as doubles, and every other token is acceptable. -/
def acceptable : Token → Bool
  | .number numeral => numeral.finite
  | _ => true

/-- What may stand between two tokens. -/
def isBlank (c : Char) : Bool := c = ' ' || c = '\t' || c = '\n' || c = '\r'

/-- The tokens of one character. -/
def ofMark? (c : Char) : Option Token :=
  if c = '[' then some .openArray
  else if c = ']' then some .closeArray
  else if c = '\x7b' then some .openObject
  else if c = '\x7d' then some .closeObject
  else if c = ',' then some .comma
  else if c = ':' then some .colon
  else none

/-- The tokens that are words. -/
def ofWord? (word : List Char) : Option Token :=
  if word = ['n', 'u', 'l', 'l'] then some .null
  else if word = ['t', 'r', 'u', 'e'] then some (.bool true)
  else if word = ['f', 'a', 'l', 's', 'e'] then some (.bool false)
  else none

/-- A numeral goes on as long as it meets digits, signs, points and exponent marks. -/
def inNumeral (c : Char) : Bool :=
  c.isDigit || c = '-' || c = '+' || c = '.' || c = 'e' || c = 'E'

/-- Where a scan stands; what it has taken of a token is listed latest first. -/
inductive Mode where
  /-- Between two tokens. -/
  | between
  /-- In a word. -/
  | word (taken : List Char)
  /-- In a numeral. -/
  | numeral (taken : List Char)
  /-- In a string. -/
  | text (taken : List Char)
  /-- In a string, right after a backslash that protects the next character. -/
  | escaped (taken : List Char)
  deriving DecidableEq

/-- A scan in progress. -/
structure Scan where
  /-- Where the scan stands. -/
  mode : Mode
  /-- The finished tokens, latest first. -/
  tokens : List Token
  deriving DecidableEq

namespace Scan

/-- Before the first character. -/
def start : Scan := ⟨.between, []⟩

/-- Takes a character that does not belong to the token before it. -/
def enter (tokens : List Token) (c : Char) : Option Scan :=
  -- The first character of a token decides of what kind it is.
  if isBlank c then some ⟨.between, tokens⟩
  else if c = '"' then some ⟨.text [], tokens⟩
  else if c.isLower then some ⟨.word [c], tokens⟩
  else if c.isDigit || c = '-' then some ⟨.numeral [c], tokens⟩
  else (ofMark? c).map fun token => ⟨.between, token :: tokens⟩

/-- Ends a word or a numeral; a string that is still open has no end. -/
def finish (scan : Scan) : Option (List Token) :=
  match scan.mode with
  | .between => some scan.tokens
  | .word taken => (ofWord? taken.reverse).map (· :: scan.tokens)
  | .numeral taken => (Numeral.read? taken.reverse).map (.number · :: scan.tokens)
  | .text _ => none
  | .escaped _ => none

/-- Takes one character. -/
def step (scan : Scan) (c : Char) : Option Scan :=
  -- A word or a numeral ends where a character cannot belong to it.
  match scan.mode with
  | .between => enter scan.tokens c
  | .word taken =>
    if c.isLower then some { scan with mode := .word (c :: taken) }
    else scan.finish.bind (enter · c)
  | .numeral taken =>
    if inNumeral c then some { scan with mode := .numeral (c :: taken) }
    else scan.finish.bind (enter · c)
  | .text taken =>
    if c = '"' then
      (unescape taken.reverse).map fun text =>
        ⟨.between, .string (String.ofList text) :: scan.tokens⟩
    else if c = '\\' then some { scan with mode := .escaped (c :: taken) }
    else some { scan with mode := .text (c :: taken) }
  | .escaped taken => some { scan with mode := .text (c :: taken) }

end Scan

/-- The tokens of a text, or nothing if some part of it is no token. -/
def scan? (text : List Char) : Option (List Token) := do
  -- Tokens are gathered latest first, and turned round at the end.
  let done ← text.foldlM Scan.step Scan.start
  let tokens ← done.finish
  return tokens.reverse

end Token

end Flowprint.Json
