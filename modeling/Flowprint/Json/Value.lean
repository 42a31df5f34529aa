import Flowprint.Decimal.Basic

/-! A JSON value keeps its numbers exact and its fields in order. -/

namespace Flowprint

/-- A JSON value; an integer is a number written with neither a fraction nor an exponent. -/
inductive Json where
  /-- The null value. -/
  | null
  /-- A truth value. -/
  | bool (value : Bool)
  /-- A number written as an integer. -/
  | integer (value : Int)
  /-- A number written with a fraction or an exponent. -/
  | decimal (value : Decimal)
  /-- A text. -/
  | string (text : String)
  /-- An array of values. -/
  | array (items : List Json)
  /-- An object, its fields in order of first appearance. -/
  | object (fields : List (String × Json))
  deriving Repr

namespace Json

/-- Gives a key its value: a key that is present keeps its place, and a new one comes last. -/
def putField (key : String) (value : Json) : List (String × Json) → List (String × Json)
  -- Of several values for a key the last one counts.
  | [] => [(key, value)]
  | field :: rest =>
    if field.1 = key then (key, value) :: rest else field :: putField key value rest

/-- The value under a key, if the value is an object that has it. -/
def field? (value : Json) (key : String) : Option Json :=
  match value with
  | .object fields => (fields.find? (·.1 = key)).map (·.2)
  | _ => none

/-- The items, if the value is an array. -/
def items? : Json → Option (List Json)
  | .array items => some items
  | _ => none

/-- The text, if the value is a string. -/
def text? : Json → Option String
  | .string text => some text
  | _ => none

mutual

/-- How deep containers stand inside each other; a value without any inside is one deep. -/
def nesting : Json → Nat
  | .array items => nestingAmong items + 1
  | .object fields => nestingUnder fields + 1
  | _ => 1

/-- How deep the deepest of some values is. -/
def nestingAmong : List Json → Nat
  | [] => 0
  | item :: rest => max (nesting item) (nestingAmong rest)

/-- How deep the deepest value of some fields is. -/
def nestingUnder : List (String × Json) → Nat
  | [] => 0
  | (_, value) :: rest => max (nesting value) (nestingUnder rest)

end

/-- No value in a list nests deeper than the deepest. -/
theorem nesting_le_nestingAmong {item : Json} {items : List Json} (member : item ∈ items) :
    item.nesting ≤ nestingAmong items := by
  -- The induction is on the items; the head and the rest are below their maximum.
  induction items with
  | nil => cases member
  | cons head rest ih =>
    rw [nestingAmong]
    rcases List.mem_cons.mp member with rfl | later
    · exact Nat.le_max_left _ _
    · exact Nat.le_trans (ih later) (Nat.le_max_right _ _)

/-- No value in a list of fields nests deeper than the deepest. -/
theorem nesting_le_nestingUnder {field : String × Json} {fields : List (String × Json)}
    (member : field ∈ fields) : field.2.nesting ≤ nestingUnder fields := by
  -- As among items, the head and the rest are below their maximum.
  induction fields with
  | nil => cases member
  | cons head rest ih =>
    rw [nestingUnder]
    rcases List.mem_cons.mp member with rfl | later
    · exact Nat.le_max_left _ _
    · exact Nat.le_trans (ih later) (Nat.le_max_right _ _)

/-- An array nests deeper than each of its items. -/
theorem nesting_lt_of_mem {item : Json} {items : List Json} (member : item ∈ items) :
    item.nesting < (array items).nesting := by
  -- The array itself is one level more.
  rw [nesting]
  exact Nat.lt_succ_of_le (nesting_le_nestingAmong member)

/-- An object nests deeper than what stands under each of its keys. -/
theorem nesting_lt_of_field? {value inner : Json} {key : String}
    (found : value.field? key = some inner) : inner.nesting < value.nesting := by
  -- Only an object has a field, and the object itself is one level more.
  cases value with
  | object fields =>
    obtain ⟨field, first, rfl⟩ := Option.map_eq_some_iff.mp found
    rw [nesting]
    exact Nat.lt_succ_of_le (nesting_le_nestingUnder (List.mem_of_find?_eq_some first))
  | _ => cases found

/-- The kinds of values. -/
inductive Kind where
  /-- The null value. -/
  | null
  /-- A truth value. -/
  | bool
  /-- An integer. -/
  | integer
  /-- A number that is no integer. -/
  | decimal
  /-- A text. -/
  | string
  /-- An array. -/
  | array
  /-- An object. -/
  | object
  deriving DecidableEq, Repr

/-- A kind as it is named in a complaint. -/
def Kind.name : Kind → String
  | null => "NoneType"
  | bool => "bool"
  | integer => "int"
  | decimal => "float"
  | string => "str"
  | array => "list"
  | object => "dict"

/-- The kind of a value. -/
def kind : Json → Kind
  | .null => .null
  | .bool _ => .bool
  | .integer _ => .integer
  | .decimal _ => .decimal
  | .string _ => .string
  | .array _ => .array
  | .object _ => .object

end Json

end Flowprint
