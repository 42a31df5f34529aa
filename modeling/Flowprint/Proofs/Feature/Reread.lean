import Flowprint.Proofs.Document.RoundTrip
import Flowprint.Proofs.Feature.Collection
import Flowprint.Proofs.Feature.Ngram
import Flowprint.Proofs.Flowgraph.Blocks

/-!
The features of a function can be read off its text.

The text says nothing of blocks that stand at no node, and it gives an empty block to every node
that has none. The first of these shows in the mnemonic tuples, and the second shows nowhere.
-/

namespace Flowprint

/-- The same blocks, but empty at all addresses that are not listed. -/
def Blocks.confine (blocks : Blocks) (listed : List Address) : Blocks where
  -- No block loses its place.
  entries := blocks.entries.map fun entry => (entry.1, if entry.1 ∈ listed then entry.2 else [])
  ascending := List.pairwise_map.mpr blocks.ascending

/-- What is found is what was there, or an empty block instead of it. -/
theorem Blocks.get?_confine (blocks : Blocks) (listed : List Address) (address : Address) :
    (blocks.confine listed).get? address =
      (blocks.get? address).map fun block => if address ∈ listed then block else [] := by
  simp only [get?, confine, List.find?_map, Option.map_map, Function.comp_def]
  cases found : blocks.entries.find? (·.1 = address) with
  | none => rfl
  | some entry =>
    -- The entry that is found has the address that was looked for.
    have here : entry.1 = address := by simpa using List.find?_some found
    simp [here]

namespace Flowgraph

open Document

variable {function reread : Flowgraph}

/-- The same function, but with nothing in the blocks that stand at no node. -/
def confined (function : Flowgraph) : Flowgraph :=
  { function with blocks := function.blocks.confine function.nodes }

/-- What a text keeps of the code is what stands at the nodes. -/
theorem Kept.instructions (kept : function.Kept reread) :
    reread.blocks.instructions = function.confined.blocks.instructions := by
  apply Blocks.instructions_congr
  intro address
  rw [kept.blocks, confined, Blocks.get?_confine]
  -- A node without a block has been given an empty one, and that is as good as none.
  split
  · next present => cases found : function.blocks.get? address <;> simp [blockAt, found]
  · cases function.blocks.get? address <;> rfl

/-- A function whose blocks at no node are empty loses no code with them. -/
theorem instructions_confined
    (empty : ∀ entry ∈ function.blocks.entries, entry.1 ∉ function.nodes → entry.2 = []) :
    function.confined.blocks.instructions = function.blocks.instructions := by
  apply Blocks.instructions_congr
  intro address
  rw [confined, Blocks.get?_confine]
  cases found : function.blocks.get? address with
  | none => rfl
  | some block =>
    -- At a node the block is untouched, and elsewhere it was empty before.
    by_cases present : address ∈ function.nodes
    · simp [present]
    · have nothing : block = [] := empty _ (Blocks.mem_entries_iff.mpr found) present
      simp [nothing]

end Flowgraph

/-- Functions with the same graph and the same code have the same features. -/
theorem Features.collect_congr {first second : Flowgraph} (graph : first.toGraph = second.toGraph)
    (code : first.blocks.instructions = second.blocks.instructions) :
    collect (Generator.new first) first.toGraph first.size =
      collect (Generator.new second) second.toGraph second.size := by
  -- Collecting reads the graph and the tuples, and nothing else of a function.
  rw [collect_new, collect_new, Flowgraph.ngrams_congr code, graph]

namespace Flowgraph

open Document

/--
A function that a document admits has the features of what is read back from its text, as far as
these do not come from blocks at no node.

The neighbourhoods are the same in any case, and so are the mnemonic tuples if those blocks are
empty; it makes no difference whether a node has an empty block or none.
-/
theorem features_reread {function : Flowgraph}
    (documented : ∀ address, function.Names address → address.Documented)
    (called : ∀ address ∈ function.nodes, ∀ instruction ∈ function.blockAt address,
      instruction.mnemonic ≠ "") :
    let confined := function.confined
    ∃ text reread features own,
      function.toText = .ok text ∧
      diagnosed Diagnosis.maxNesting (ofText text) = .ok (reread, none) ∧
      (Features.collect (Generator.new reread) reread.toGraph reread.size).1 = .ok features ∧
      (Features.collect (Generator.new confined) confined.toGraph confined.size).1 =
        .ok features ∧
      (Features.collect (Generator.new function) function.toGraph function.size).1 = .ok own ∧
      features.subgraphs = own.subgraphs ∧
      ((∀ entry ∈ function.blocks.entries, entry.1 ∉ function.nodes → entry.2 = []) →
        features.tuples = own.tuples) := by
  intro confined
  obtain ⟨text, reread, written, reads, kept⟩ := Admitted.rereads ⟨documented, called⟩
  -- Nodes and edges come back as they were, in their order, and nothing was done to them here.
  have graph : reread.toGraph = confined.toGraph := Graph.ext kept.nodes kept.edges
  have collected := congrArg Prod.fst (Features.collect_new confined)
  refine ⟨text, reread, _, _, written, by rw [reads]; rfl, ?_, collected,
    congrArg Prod.fst (Features.collect_new function), rfl, ?_⟩
  · rw [Features.collect_congr graph kept.instructions]
    exact collected
  · intro empty
    exact ngrams_congr (instructions_confined empty) _

/-- A function with a node that has no block, an edge that leads nowhere and a block at no node. -/
theorem features_reread_scattered :
    let function := build [.node 2, .node 1, .edge (2, 1), .edge (1, 7), .block 9 [],
      .block 2 [⟨"a", []⟩, ⟨"b", []⟩, ⟨"c", []⟩]]
    (∀ address, function.Names address → address.Documented) ∧
    (∀ address ∈ function.nodes, ∀ instruction ∈ function.blockAt address,
      instruction.mnemonic ≠ "") ∧
    (∀ entry ∈ function.blocks.entries, entry.1 ∉ function.nodes → entry.2 = []) ∧
    ∃ text reread features,
      function.toText = .ok text ∧
      diagnosed Diagnosis.maxNesting (ofText text) = .ok (reread, none) ∧
      Features.ofFunction reread = .ok features ∧
      Features.ofFunction function = .ok features := by
  intro function
  -- Each address is one that a document can write, and so are both ends of the edge.
  have nodes : ∀ address ∈ function.nodes, address.Documented := by decide +kernel
  have edges : ∀ edge ∈ function.edges, edge.1.Documented ∧ edge.2.Documented := by decide +kernel
  have documented : ∀ address, function.Names address → address.Documented := by
    intro address named
    rcases named with present | ⟨edge, present, rfl | rfl⟩
    · exact nodes address present
    · exact (edges edge present).1
    · exact (edges edge present).2
  -- No instruction of a node lacks its mnemonic.
  have called : ∀ address ∈ function.nodes, ∀ instruction ∈ function.blockAt address,
      instruction.mnemonic ≠ "" := by
    decide +kernel
  have empty : ∀ entry ∈ function.blocks.entries, entry.1 ∉ function.nodes → entry.2 = [] := by
    decide +kernel
  obtain ⟨text, reread, features, own, written, reads, collected, -, owned, subgraphs, tuples⟩ :=
    features_reread documented called
  -- Nothing stands in the block at no node, so the tuples are the same as well.
  have same : features = own := by
    cases features
    cases own
    rw [Features.mk.injEq]
    exact ⟨subgraphs, tuples empty⟩
  exact ⟨documented, called, empty, text, reread, features, written, reads, collected, same ▸ owned⟩

end Flowgraph

end Flowprint
