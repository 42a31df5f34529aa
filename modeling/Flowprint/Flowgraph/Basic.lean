import Flowprint.Fault
import Flowprint.Graph.Basic
import Flowprint.Flowgraph.Blocks

/-! The flow graph of a function is a graph together with the blocks of its code. -/

namespace Flowprint

/-- Blocks are kept apart from nodes: a node may lack a block, and a block may stand at no node. -/
structure Flowgraph extends Graph where
  /-- The code, by ascending address. -/
  blocks : Blocks
  deriving DecidableEq

namespace Flowgraph

/-- The function that holds nothing. -/
def empty : Flowgraph := { toGraph := .empty, blocks := .empty }

/-- Two functions with the same graph and the same blocks are the same function. -/
@[ext] theorem ext {first second : Flowgraph} (graph : first.toGraph = second.toGraph)
    (blocks : first.blocks = second.blocks) : first = second := by
  -- A function has no other part.
  cases first; cases second; cases graph; cases blocks; rfl

/-- Adds a node unless it is there already. -/
def addNode (function : Flowgraph) (address : Address) : Flowgraph :=
  { function with toGraph := function.toGraph.addNode address }

/-- Adds an edge unless it is there already. -/
def addEdge (function : Flowgraph) (edge : Edge) : Flowgraph :=
  { function with toGraph := function.toGraph.addEdge edge }

/-- Gives an address its block, instead of any block that was there. -/
def setBlock (function : Flowgraph) (address : Address) (block : Block) : Flowgraph :=
  { function with blocks := function.blocks.set address block }

/-- Extends the block at an address by one instruction; nothing happens where there is no block. -/
def appendInstruction (function : Flowgraph) (address : Address) (instruction : Instruction) :
    Flowgraph :=
  { function with blocks := function.blocks.append address instruction }

/-- Extends the block at an address by one instruction, which is a fault where there is no block. -/
def extendBlock (function : Flowgraph) (address : Address) (instruction : Instruction) :
    Except Fault Flowgraph :=
  match function.blocks.get? address with
  | some _ => .ok (function.appendInstruction address instruction)
  | none => .error (.noBlock address)

/-- The block at an address, which is empty where there is none. -/
def blockAt (function : Flowgraph) (address : Address) : Block :=
  (function.blocks.get? address).getD []

/-- The mnemonics of the whole function, block after block by ascending address. -/
def mnemonics (function : Flowgraph) : List String :=
  -- Blocks count whether or not they stand at nodes.
  function.blocks.instructions.map (·.mnemonic)

end Flowgraph

end Flowprint
