/-! A bare graph has no code, and what is asked of the code of a graph has a name. -/

namespace Flowprint

/-- Something that a graph can do only if it has code. -/
inductive CodeRequest where
  /-- Gives an address its block. -/
  | setBlock
  /-- Shows the block at an address. -/
  | block
  /-- Shows all blocks. -/
  | blocks
  /-- Takes over a node from a document. -/
  | takeNode
  /-- Takes over an edge from a document. -/
  | takeEdge
  /-- Takes over a whole document. -/
  | takeDocument
  /-- Gives the document of a graph. -/
  | document
  /-- Gives the document of a graph as a text. -/
  | text
  /-- Lists the code. -/
  | listing
  deriving DecidableEq, Repr

/-- A request as it is named in a complaint. -/
def CodeRequest.name : CodeRequest → String
  | setBlock => "add_instructions"
  | block => "get_node_instructions"
  | blocks => "get_instructions"
  | takeNode => "parse_node_json"
  | takeEdge => "parse_edge_json"
  | takeDocument => "parse_json"
  | document => "to_json"
  | text => "to_json_text"
  | listing => "get_disassembly"

end Flowprint
