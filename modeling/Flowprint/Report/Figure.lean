import Flowprint.Decimal.Layout
import Flowprint.Json.Value
import Flowprint.Text.Quoted

/-! A figure in a table is any value in words: most are numbers, and a text stands for itself. -/

namespace Flowprint.Json

/-- A number stands without an exponent from the fourth place behind the point to 16 before it. -/
def figureLayout : Layout where
  plainFrom := -4
  plainTo := 15
  exponentWidth := 2
  infinity := ['i', 'n', 'f']
  signedInfinity := true

mutual

/-- A value in words, in which every text is quoted. -/
def words : Json → String
  | .null => "None"
  | .bool true => "True"
  | .bool false => "False"
  | .integer value => toString value
  | .decimal value => String.ofList (figureLayout.write value)
  | .string text => Text.quoted text
  | .array items => "[" ++ ", ".intercalate (wordsAmong items) ++ "]"
  | .object fields => "\x7b" ++ ", ".intercalate (wordsUnder fields) ++ "\x7d"

/-- The items of an array in words. -/
def wordsAmong : List Json → List String
  | [] => []
  | item :: rest => words item :: wordsAmong rest

/-- The fields of an object in words, each with its key. -/
def wordsUnder : List (String × Json) → List String
  | [] => []
  | (key, value) :: rest => (Text.quoted key ++ ": " ++ words value) :: wordsUnder rest

end

/-- A figure in words; a text is not quoted. -/
def figure : Json → String
  | .string text => text
  | value => words value

/-- The value is null, false, zero, or holds nothing. -/
def isEmpty : Json → Bool
  | .null => true
  | .bool value => !value
  | .integer value => value = 0
  | .decimal value => value.isZero
  | .string text => text = ""
  | .array items => items.isEmpty
  | .object fields => fields.isEmpty

end Flowprint.Json
