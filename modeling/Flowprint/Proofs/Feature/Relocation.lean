import Flowprint.Feature.Summary
import Flowprint.Proofs.Feature.Collection
import Flowprint.Proofs.Feature.Ngram
import Flowprint.Proofs.Flowgraph.History
import Flowprint.Proofs.Graph.Relocation
import Mathlib.Data.Int.ConditionallyCompleteOrder
import Mathlib.Order.ConditionallyCompleteLattice.Basic
import Mathlib.Order.Hom.Basic

/-!
The features of a function do not depend on where it was loaded.

A function is moved by moving every address in the edits that build it.
-/

namespace Flowprint

/-- The same edit with every address moved. -/
def Edit.relocate (move : Address → Address) : Edit → Edit
  | .node address => .node (move address)
  | .edge added => .edge (Prod.map move move added)
  | .block address given => .block (move address) given
  | .instruction address added => .instruction (move address) added

/-- The same record with every address moved. -/
def Neighbourhood.relocate (move : Address → Address) (recorded : Neighbourhood) :
    Neighbourhood where
  center := move recorded.center
  distance := recorded.distance
  nodes := recorded.nodes.map move
  edges := recorded.edges.map (Prod.map move move)

/-- The same features with every address moved; the mnemonic tuples have none. -/
def Features.relocate (move : Address → Address) (features : Features) : Features where
  subgraphs := features.subgraphs.map (Neighbourhood.relocate move)
  tuples := features.tuples

namespace Blocks

variable (move : Address ↪o Address)

/-- The same blocks at moved addresses, which still ascend. -/
def relocate (blocks : Blocks) : Blocks where
  entries := blocks.entries.map (Prod.map move id)
  ascending := blocks.ascending.map _ fun _ _ below => move.lt_iff_lt.mpr below

/-- A block is put in its place before or after the move. -/
theorem set_relocate (blocks : Blocks) (address : Address) (block : Block) :
    (blocks.relocate move).set (move address) block = (blocks.set address block).relocate move := by
  -- Only the entries matter, since the order of addresses is kept by the move.
  obtain ⟨entries, ascending⟩ := blocks
  refine Blocks.ext ?_
  change insertEntry (move address) block (entries.map (Prod.map move id)) =
    (insertEntry address block entries).map (Prod.map move id)
  clear ascending
  -- Addresses compare after the move as they did before it.
  induction entries with
  | nil => rfl
  | cons entry rest ih =>
    simp only [List.map_cons, insertEntry, Prod.map_fst, move.lt_iff_lt,
      EmbeddingLike.apply_eq_iff_eq, ih]
    split
    · -- The entry goes in front on both sides.
      rfl
    · split
      · -- It takes the place of the head on both sides.
        rfl
      · -- It goes behind the head on both sides.
        rfl

/-- A block is found where it was moved. -/
theorem get?_relocate (blocks : Blocks) (address : Address) :
    (blocks.relocate move).get? (move address) = blocks.get? address := by
  -- The search compares moved addresses, which are equal only if they were before.
  simp [get?, relocate, List.find?_map, Function.comp_def]

/-- A block is extended before or after the move. -/
theorem append_relocate (blocks : Blocks) (address : Address) (instruction : Instruction) :
    (blocks.relocate move).append (move address) instruction =
      (blocks.append address instruction).relocate move := by
  -- Whether there is a block to be extended is the same before and after.
  rw [append, append, get?_relocate]
  cases blocks.get? address with
  | none => rfl
  | some block => exact set_relocate move blocks address _

/-- The code is the same after the move. -/
theorem instructions_relocate (blocks : Blocks) :
    (blocks.relocate move).instructions = blocks.instructions := by
  -- The move changes addresses, and code has none.
  simp [instructions, relocate, List.flatMap_map]

end Blocks

namespace Flowgraph

variable (move : Address ↪o Address)

/-- The same function with its graph and its blocks moved. -/
def relocate (function : Flowgraph) : Flowgraph where
  toGraph := function.toGraph.relocate move
  blocks := function.blocks.relocate move

/-- An edit may be made before or after the move. -/
theorem edit_relocate (function : Flowgraph) (edit : Edit) :
    (function.relocate move).edit (edit.relocate move) = (function.edit edit).relocate move := by
  -- The cases are the edits, each with the part that it touches.
  cases edit with
  | node address =>
    -- Nodes are known apart after the move, so a new one stays new.
    refine Flowgraph.ext (Graph.ext ?_ rfl) rfl
    exact Distinct.insert_map move.injective _ _
  | edge edge =>
    -- Edges are known apart by their ends.
    refine Flowgraph.ext (Graph.ext rfl ?_) rfl
    exact Distinct.insert_map (move.injective.prodMap move.injective) _ _
  -- A block is put where it was, between the same neighbours.
  | block address block => exact Flowgraph.ext rfl (Blocks.set_relocate move _ _ _)
  | instruction address instruction => exact Flowgraph.ext rfl (Blocks.append_relocate move _ _ _)

/-- Moved edits build the moved function. -/
theorem build_relocate (edits : List Edit) :
    build (edits.map (Edit.relocate move)) = (build edits).relocate move := by
  -- The induction goes along the edits, the last of which is made last on both sides.
  induction edits using List.reverseRecOn with
  | nil => rfl
  | append_singleton edits edit ih =>
    rw [List.map_append, List.map_singleton, build_concat, build_concat, ih, edit_relocate]

/-- The n-grams are the same after the move. -/
theorem ngrams_relocate (function : Flowgraph) (size : Int) :
    (function.relocate move).ngrams size = function.ngrams size :=
  -- The n-grams are those of the code.
  ngrams_congr (Blocks.instructions_relocate move function.blocks) size

end Flowgraph

namespace Features

/-- What is recorded for a moved request is what was recorded for it, moved. -/
theorem entry_relocate (move : Address ↪o Address) (graph : Graph) (request : Address × Nat)
    (distance : Nat) :
    entry (graph.relocate move) (move request.1, request.2) distance =
      (entry graph request distance).relocate move := by
  -- The neighbourhood moves with its center.
  rw [entry, Generator.serve, Graph.neighbourhood_relocate]
  rfl

/-- What is recorded of a moved function is what was recorded of it, moved. -/
theorem collect_relocate (move : Address ↪o Address) (function : Flowgraph) :
    let moved := function.relocate move
    ∃ features,
      (collect (Generator.new function) function.toGraph function.size).1 = .ok features ∧
      (collect (Generator.new moved) moved.toGraph moved.size).1 =
        .ok (features.relocate move) := by
  -- Both are collected from a new generator.
  intro moved
  refine ⟨_, congrArg Prod.fst (collect_new function), ?_⟩
  -- The requests go through the moved nodes in the same order.
  have nodes : moved.nodes = function.nodes.map move := rfl
  have entries : (Generator.requestsFor moved.nodes).map
        (fun request => entry moved.toGraph request request.2) =
      ((Generator.requestsFor function.nodes).map
        fun request => entry function.toGraph request request.2).map
          (Neighbourhood.relocate move) := by
    -- The rounds are the same, and each of them goes through the nodes.
    simp only [Generator.requestsFor, nodes, List.map_flatMap, List.map_map]
    apply List.flatMap_congr
    intro distance _
    apply List.map_congr_left
    intro center _
    exact entry_relocate move function.toGraph (center, distance) distance
  rw [collect_new, entries, Flowgraph.ngrams_relocate]
  rfl

/-- A summary counts the same before and after the move. -/
theorem summary_relocate (move : Address ↪o Address) (name : Json) (graph : Graph)
    (features : Features) :
    Summary.ofFeatures name (graph.relocate move) (features.relocate move) =
      Summary.ofFeatures name graph features := by
  -- All that a summary counts is how many there are, and the tuples have no addresses.
  simp [Summary.ofFeatures, Graph.size, Graph.relocate, relocate, Neighbourhood.relocate,
    Function.comp_def]

end Features

/--
Moving a function moves its features and changes nothing else about them.

The addresses may be moved in any way that keeps their order, since that order decides in which
order nodes are visited and blocks are read.
-/
theorem Flowgraph.features_relocate {move : Address → Address} (increasing : StrictMono move)
    (edits : List Edit) :
    let function := build edits
    let moved := build (edits.map (Edit.relocate move))
    (∀ center distance maxSize,
      (moved.neighbourhood (move center) distance maxSize).nodes =
        (function.neighbourhood center distance maxSize).nodes.map move ∧
      (moved.neighbourhood (move center) distance maxSize).edges =
        (function.neighbourhood center distance maxSize).edges.map (Prod.map move move)) ∧
    (∀ size, moved.ngrams size = function.ngrams size) ∧
    ∃ features,
      (Features.collect (Generator.new function) function.toGraph function.size).1 =
        .ok features ∧
      (Features.collect (Generator.new moved) moved.toGraph moved.size).1 =
        .ok (features.relocate move) ∧
      ∀ name, Summary.ofFeatures name moved.toGraph (features.relocate move) =
        Summary.ofFeatures name function.toGraph features := by
  intro function moved
  -- A map that keeps the order keeps addresses apart as well.
  let embedding : Address ↪o Address := OrderEmbedding.ofStrictMono move increasing
  have same : moved = function.relocate embedding := build_relocate embedding edits
  rw [same]
  refine ⟨?_, ngrams_relocate embedding function, ?_⟩
  · -- A neighbourhood moves with its nodes and its edges.
    intro center distance maxSize
    have neighbourhood :=
      Graph.neighbourhood_relocate embedding function.toGraph center distance maxSize
    exact ⟨congrArg Graph.nodes neighbourhood, congrArg Graph.edges neighbourhood⟩
  · -- The features move as a whole, and a summary counts the same.
    obtain ⟨features, collected, relocated⟩ := Features.collect_relocate embedding function
    refine ⟨features, collected, relocated, ?_⟩
    intro name
    exact Features.summary_relocate embedding name function.toGraph features

/-- A function whose addresses are tripled and lowered, so that the gaps between them grow. -/
theorem Flowgraph.features_relocate_spread :
    let edits : List Edit := [.node 2, .node 1, .edge (2, 1), .edge (1, 7), .block 2 [⟨"c", []⟩],
      .block 1 [⟨"a", []⟩, ⟨"b", []⟩]]
    let move : Address → Address := fun address => 3 * address - 5
    let moved := build (edits.map (Edit.relocate move))
    StrictMono move ∧
    (moved.neighbourhood 1 2 30).nodes = [1, -2] ∧
    (moved.neighbourhood 1 2 30).edges = [(1, -2)] ∧
    moved.ngrams 3 = [["a", "b", "c"]] := by
  intro edits move moved
  -- Tripling keeps the order, and so does lowering.
  have increasing : StrictMono move := by
    intro first second below
    exact Int.sub_lt_sub_right (Int.mul_lt_mul_of_pos_left below (by decide)) 5
  obtain ⟨neighbourhoods, ngrams, -⟩ := features_relocate increasing edits
  obtain ⟨nodes, edges⟩ := neighbourhoods 2 2 30
  refine ⟨increasing, nodes.trans ?_, edges.trans ?_, (ngrams 3).trans ?_⟩
  · decide +kernel
  · decide +kernel
  · decide +kernel

end Flowprint
