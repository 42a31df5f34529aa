import Flowprint.Text.LetterCase

/-! The lower-case form of a text, in which a sigma at the end of a word has a form of its own. -/

namespace Flowprint.Text

/-- The lower-case form of a code point, which is most often the code point itself. -/
def lowerCode (code : Nat) : Nat :=
  -- Within a run the distance from the first letter is kept.
  match caseRuns.find? fun run =>
      run.first ≤ code && code ≤ run.last && (code - run.first) % run.stride == 0 with
  | some run => run.lower + (code - run.first)
  | none => code

/-- Past the ignorable characters, a letter with case comes first. -/
def meetsCased : List Char → Bool
  | [] => false
  | c :: rest =>
    if inRanges ignorableRanges c.toNat then meetsCased rest else inRanges casedRanges c.toNat

/-- A sigma ends a word when a letter stands before it and none follows. -/
def endsWord (before after : List Char) : Bool :=
  -- What stands before is listed backward, so both sides are looked at from the sigma outward.
  meetsCased before && !meetsCased after

/-- One character in lower case; what stands before it is listed latest first. -/
def lowerChar (before : List Char) (c : Char) (after : List Char) : List Char :=
  if c = 'Σ' then [if endsWord before after then 'ς' else 'σ']
  else if c = 'İ' then ['i', '\u0307']
  else [Char.ofNat (lowerCode c.toNat)]

/-- The lower-case form of the rest of a text, after what stands before it. -/
def lowerAfter (before : List Char) : List Char → List Char
  | [] => []
  | c :: rest => lowerChar before c rest ++ lowerAfter (c :: before) rest

/-- The lower-case form of a text. -/
def lowercase (text : String) : String := String.ofList (lowerAfter [] text.toList)

end Flowprint.Text
