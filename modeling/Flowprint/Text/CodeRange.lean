/-! Properties of characters are tables of ranges of code points. -/

namespace Flowprint.Text

/-- A code point lies in one of some ranges, which include their ends. -/
def inRanges (ranges : List (Nat × Nat)) (code : Nat) : Bool :=
  ranges.any fun range => range.1 ≤ code && code ≤ range.2

end Flowprint.Text
