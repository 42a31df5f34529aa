import Flowprint.Flowgraph.Basic
import Flowprint.Rendering.Lines

/-! Graphs are drawn in the DOT language, one line for each node and one for each edge. -/

namespace Flowprint

namespace Dot

/-- Puts a backslash in front of one character, wherever it stands. -/
def protect (special : Char) (text : List Char) : List Char :=
  text.flatMap fun c => if c = special then ['\\', c] else [c]

/-- A text as it is written between double quotes. -/
def escape (text : String) : String :=
  -- Backslashes come first: those in front of quotes are put there only afterwards.
  String.ofList (protect '"' (protect '\\' text.toList))

/-- The line of a node with its label, which is escaped already. -/
def nodeLine (address : Address) (label : String) : String :=
  "  \"" ++ address.markedHex ++ "\" [label=\"" ++ label ++ "\"];"

/-- The line of an edge. -/
def edgeLine (edge : Edge) : String :=
  "  \"" ++ edge.1.markedHex ++ "\" -> \"" ++ edge.2.markedHex ++ "\";"

/-- The drawing of a graph whose nodes have the given labels. -/
def draw (graph : Graph) (label : Address → String) : String :=
  unlines
    ("digraph g \x7b" :: "  node [shape=box, fontname=\"monospace\"];" ::
      (graph.nodes.map (fun address => nodeLine address (label address)) ++
        graph.edges.map edgeLine ++ ["\x7d"]))

end Dot

/-- The drawing of a graph, in which a node is labelled with its address. -/
def Graph.toDot (graph : Graph) : String := Dot.draw graph Address.markedHex

namespace Flowgraph

/-- A node is labelled with its address and its instructions, each on a line of its own. -/
def dotLabel (function : Flowgraph) (address : Address) : String :=
  -- The mark that ends a line is added after escaping, so its backslash stays single.
  let lines := address.markedHex ::
    (function.blockAt address).map fun instruction => Dot.escape instruction.render
  String.join (lines.map (· ++ "\\l"))

/-- The drawing of a function with its code. -/
def toDot (function : Flowgraph) : String := Dot.draw function.toGraph function.dotLabel

end Flowgraph

end Flowprint
