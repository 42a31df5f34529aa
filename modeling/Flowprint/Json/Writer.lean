import Flowprint.Decimal.Layout
import Flowprint.Fault
import Flowprint.Json.Escape
import Flowprint.Json.Numeral
import Flowprint.Json.Value

/-! A JSON value is written with one item or field to a line, indented by two spaces a level. -/

namespace Flowprint.Json

/-- A line break and the indentation of a level. -/
def newLine (level : Nat) : List Char := '\n' :: List.replicate (2 * level) ' '

/-- A text between quotes. -/
def writeString (text : String) : List Char := '"' :: (escape text.toList ++ ['"'])

/-- A number stands without an exponent from the fifth place behind the point to 16 before it. -/
def layout : Layout where
  plainFrom := -5
  plainTo := 15
  exponentWidth := 1
  infinity := ['n', 'u', 'l', 'l']
  signedInfinity := false

mutual

/-- A value as it is written at a level; containers that hold nothing take no line of their own. -/
def write (level : Nat) : Json → List Char
  | .null => ['n', 'u', 'l', 'l']
  | .bool true => ['t', 'r', 'u', 'e']
  | .bool false => ['f', 'a', 'l', 's', 'e']
  | .integer value => Numeral.writeInteger value
  | .decimal value => layout.write value
  | .string text => writeString text
  | .array [] => ['[', ']']
  -- The last line of a container stands at the level of the container itself.
  | .array (first :: rest) =>
    '[' :: (newLine (level + 1) ++ write (level + 1) first ++ writeItems (level + 1) rest ++
      newLine level ++ [']'])
  | .object [] => ['\x7b', '\x7d']
  | .object ((key, value) :: rest) =>
    '\x7b' :: (newLine (level + 1) ++ writeString key ++ ':' :: ' ' :: write (level + 1) value ++
      writeFields (level + 1) rest ++ newLine level ++ ['\x7d'])

/-- The items after the first one, each after a comma on a line of its own. -/
def writeItems (level : Nat) : List Json → List Char
  | [] => []
  | item :: rest => ',' :: (newLine level ++ write level item ++ writeItems level rest)

/-- The fields after the first one, each after a comma on a line of its own. -/
def writeFields (level : Nat) : List (String × Json) → List Char
  | [] => []
  | (key, value) :: rest =>
    ',' :: (newLine level ++ writeString key ++ ':' :: ' ' :: write level value ++
      writeFields level rest)

end

/-- The integers that can be written fit into 64 bits, with a sign if they are negative. -/
def Fits (value : Int) : Prop := -9223372036854775808 ≤ value ∧ value ≤ 18446744073709551615

instance (value : Int) : Decidable (Fits value) := inferInstanceAs (Decidable (_ ∧ _))

/-- How many containers around a container leave no room for it. -/
def maxWrittenDepth : Nat := 254

mutual

/-- The first thing in a value that cannot be written, with `above` containers around the value. -/
def obstacle? (above : Nat) : Json → Option Fault
  -- A container needs room even if it holds nothing.
  | .integer value => if Fits value then none else some .wideInteger
  | .array items =>
    if maxWrittenDepth ≤ above then some .tooDeep else obstacleAmong? (above + 1) items
  | .object fields =>
    if maxWrittenDepth ≤ above then some .tooDeep else obstacleUnder? (above + 1) fields
  | _ => none

/-- The first thing in a list of values that cannot be written. -/
def obstacleAmong? (above : Nat) : List Json → Option Fault
  | [] => none
  | item :: rest => (obstacle? above item).or (obstacleAmong? above rest)

/-- The first thing in a list of fields that cannot be written. -/
def obstacleUnder? (above : Nat) : List (String × Json) → Option Fault
  | [] => none
  | (_, value) :: rest => (obstacle? above value).or (obstacleUnder? above rest)

end

/-- An integer can be written if it fits. -/
@[simp] theorem obstacle?_integer {above : Nat} {value : Int} :
    obstacle? above (.integer value) = none ↔ Fits value := by
  -- An integer is refused by its range and by nothing else.
  by_cases fits : Fits value <;> simp [obstacle?, fits]

/-- An array can be written if there is room for it and its items can be written inside it. -/
@[simp] theorem obstacle?_array {above : Nat} {items : List Json} :
    obstacle? above (.array items) = none ↔
      above < maxWrittenDepth ∧ obstacleAmong? (above + 1) items = none := by
  -- The depth of the array is looked at before its items are.
  by_cases deep : maxWrittenDepth ≤ above
  · simp [obstacle?, deep, Nat.not_lt.mpr deep]
  · simp [obstacle?, deep, Nat.not_le.mp deep]

/-- An object can be written if there is room for it and its values can be written inside it. -/
@[simp] theorem obstacle?_object {above : Nat} {fields : List (String × Json)} :
    obstacle? above (.object fields) = none ↔
      above < maxWrittenDepth ∧ obstacleUnder? (above + 1) fields = none := by
  -- As for an array, the depth comes before the fields.
  by_cases deep : maxWrittenDepth ≤ above
  · simp [obstacle?, deep, Nat.not_lt.mpr deep]
  · simp [obstacle?, deep, Nat.not_le.mp deep]

/-- Items can be written if each of them can. -/
@[simp] theorem obstacleAmong?_cons {above : Nat} {item : Json} {rest : List Json} :
    obstacleAmong? above (item :: rest) = none ↔
      obstacle? above item = none ∧ obstacleAmong? above rest = none := by
  -- The first obstacle is that of the head, if the head has one.
  simp [obstacleAmong?]

/-- Nothing stands in the way of writing no fields. -/
@[simp] theorem obstacleUnder?_nil {above : Nat} : obstacleUnder? above [] = none := rfl

/-- Fields can be written if the value of each of them can. -/
@[simp] theorem obstacleUnder?_cons {above : Nat} {field : String × Json}
    {rest : List (String × Json)} :
    obstacleUnder? above (field :: rest) = none ↔
      obstacle? above field.2 = none ∧ obstacleUnder? above rest = none := by
  -- The first obstacle is that of the first field, if that has one.
  simp [obstacleUnder?]

/-- Items can be written exactly when each of them can. -/
theorem obstacleAmong?_eq_none_iff {above : Nat} {items : List Json} :
    obstacleAmong? above items = none ↔ ∀ item ∈ items, obstacle? above item = none := by
  -- The induction is on the items, which are looked at in order.
  induction items with
  | nil => simp [obstacleAmong?]
  | cons item rest ih => rw [obstacleAmong?_cons, ih, List.forall_mem_cons]

mutual

/-- In a value that does not nest too deep, only an integer can be an obstacle. -/
theorem obstacle?_eq_wideInteger {above : Nat} {fault : Fault} (value : Json)
    (shallow : above + value.nesting ≤ maxWrittenDepth)
    (found : obstacle? above value = some fault) : fault = .wideInteger := by
  -- The recursion is that of the search; each container takes one level of the depth that is left.
  match value with
  | .null => cases found
  | .bool _ => cases found
  | .integer _ =>
    rw [obstacle?] at found
    split at found
    · cases found
    · exact (Option.some.inj found).symm
  | .decimal _ => cases found
  | .string _ => cases found
  -- There is a level left for the container, so what is wrong is inside it.
  | .array items =>
    rw [nesting] at shallow
    rw [obstacle?, if_neg (by omega)] at found
    exact obstacleAmong?_eq_wideInteger items (by omega) found
  | .object fields =>
    rw [nesting] at shallow
    rw [obstacle?, if_neg (by omega)] at found
    exact obstacleUnder?_eq_wideInteger fields (by omega) found

/-- Among values that do not nest too deep, only an integer can be an obstacle. -/
theorem obstacleAmong?_eq_wideInteger {above : Nat} {fault : Fault} (items : List Json)
    (shallow : above + nestingAmong items ≤ maxWrittenDepth)
    (found : obstacleAmong? above items = some fault) : fault = .wideInteger := by
  -- The obstacle is the one of the head, or it is found behind the head.
  match items with
  | [] => cases found
  | item :: rest =>
    rw [nestingAmong] at shallow
    -- As among items, with the value of each field.
    rw [obstacleAmong?, Option.or_eq_some_iff] at found
    rcases found with here | ⟨-, later⟩
    · exact obstacle?_eq_wideInteger item (by omega) here
    · exact obstacleAmong?_eq_wideInteger rest (by omega) later

/-- Under keys whose values do not nest too deep, only an integer can be an obstacle. -/
theorem obstacleUnder?_eq_wideInteger {above : Nat} {fault : Fault} (fields : List (String × Json))
    (shallow : above + nestingUnder fields ≤ maxWrittenDepth)
    (found : obstacleUnder? above fields = some fault) : fault = .wideInteger := by
  -- Fields are looked at like items, and their keys are no obstacle.
  match fields with
  | [] => cases found
  | (_, value) :: rest =>
    rw [nestingUnder] at shallow
    rw [obstacleUnder?, Option.or_eq_some_iff] at found
    rcases found with here | ⟨-, later⟩
    · exact obstacle?_eq_wideInteger value (by omega) here
    · exact obstacleUnder?_eq_wideInteger rest (by omega) later

end

/-- The text of a value, unless something in it cannot be written. -/
def text (value : Json) : Except Fault String :=
  match value.obstacle? 0 with
  | none => .ok (String.ofList (value.write 0))
  | some fault => .error fault

end Flowprint.Json
