import Flowprint.Flowgraph.Basic
import Flowprint.Json.Writer

/-! A function is written as a document of its nodes, each with its block, and its edges. -/

namespace Flowprint

/-- An instruction as an object. -/
def Instruction.toJson (instruction : Instruction) : Json :=
  .object [("mnemonic", .string instruction.mnemonic),
    ("operands", .array (instruction.operands.map .string))]

/-- An edge as an object. -/
def Document.edgeJson (edge : Edge) : Json :=
  .object [("source", .integer edge.1), ("destination", .integer edge.2)]

namespace Flowgraph

/-- A node as an object; a node without a block has no instructions. -/
def nodeJson (function : Flowgraph) (address : Address) : Json :=
  .object [("address", .integer address),
    ("instructions", .array ((function.blockAt address).map Instruction.toJson))]

/-- The document of a function, in which a block at no node has no place. -/
def toJson (function : Flowgraph) : Json :=
  .object [("nodes", .array (function.nodes.map function.nodeJson)),
    ("edges", .array (function.edges.map Document.edgeJson))]

/-- The text of a function's document. -/
def toText (function : Flowgraph) : Except Fault String := function.toJson.text

end Flowgraph

end Flowprint
