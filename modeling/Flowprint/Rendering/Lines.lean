/-! Rendered texts are made of lines, and every line ends with a line break. -/

namespace Flowprint

/-- The text of some lines. -/
def unlines (lines : List String) : String := String.join (lines.map (· ++ "\n"))

end Flowprint
