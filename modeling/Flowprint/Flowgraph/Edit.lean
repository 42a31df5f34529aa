import Flowprint.Flowgraph.Basic

/-! A function is built by edits, and what it holds is decided by the edits that were made. -/

namespace Flowprint

/-- One change to a function. -/
inductive Edit where
  /-- Adds a node. -/
  | node (address : Address)
  /-- Adds an edge. -/
  | edge (edge : Edge)
  /-- Gives an address its block. -/
  | block (address : Address) (block : Block)
  /-- Extends the block at an address by one instruction. -/
  | instruction (address : Address) (instruction : Instruction)
  deriving DecidableEq

namespace Flowgraph

/-- The function after one edit. -/
def edit (function : Flowgraph) : Edit → Flowgraph
  | .node address => function.addNode address
  | .edge edge => function.addEdge edge
  | .block address block => function.setBlock address block
  | .instruction address instruction => function.appendInstruction address instruction

/-- No edit loses a node. -/
theorem nodes_subset_edit (function : Flowgraph) (edit : Edit) :
    function.nodes ⊆ (function.edit edit).nodes := by
  -- Only an edit that adds a node touches the nodes.
  cases edit with
  | node address => exact fun _ present => Distinct.mem_insert.mpr (Or.inl present)
  | edge edge => exact List.Subset.refl _
  | block address block => exact List.Subset.refl _
  | instruction address instruction => exact List.Subset.refl _

/-- The function after a series of edits. -/
def replay (function : Flowgraph) (edits : List Edit) : Flowgraph := edits.foldl edit function

/-- The function that a series of edits builds from nothing. -/
def build (edits : List Edit) : Flowgraph := empty.replay edits

end Flowgraph

end Flowprint
