/-! On a console with markup, a bracket that would open a tag is shown by a backslash before it. -/

namespace Flowprint.Text

/-- A character with which a tag can begin. -/
def opensTag (c : Char) : Bool := ('a' ≤ c && c ≤ 'z') || c = '#' || c = '/' || c = '@'

/-- A closing bracket comes before any opening one. -/
def closesTag : List Char → Bool
  | [] => false
  | c :: rest => if c = ']' then true else if c = '[' then false else closesTag rest

/-- What follows an opening bracket makes a tag of it. -/
def makesTag : List Char → Bool
  | [] => false
  | c :: rest => opensTag c && closesTag rest

/--
Protects every tag in the rest of a text, after a run of backslashes.

Before a tag the run is doubled, so that it still reads as itself, and one more backslash protects
the bracket.
-/
def protectTags (run : Nat) : List Char → List Char
  | [] => List.replicate run '\\'
  | c :: rest =>
    if c = '\\' then protectTags (run + 1) rest
    else if c = '[' ∧ makesTag rest then
      List.replicate (2 * run + 1) '\\' ++ c :: protectTags 0 rest
    else List.replicate run '\\' ++ c :: protectTags 0 rest

/-- A single backslash at the end is doubled, so that it does not protect what comes next. -/
def protectEnd (text : List Char) : List Char :=
  -- Only the last two characters matter.
  match text.reverse with
  | ['\\'] => text ++ ['\\']
  | '\\' :: c :: _ => if c = '\\' then text else text ++ ['\\']
  | _ => text

/-- A text in a form that a console with markup shows as the text itself. -/
def protect (text : String) : String := String.ofList (protectEnd (protectTags 0 text.toList))

end Flowprint.Text
