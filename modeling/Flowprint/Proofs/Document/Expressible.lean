import Flowprint.Proofs.Document.RoundTrip
import Flowprint.Proofs.Flowgraph.Blocks

/-! Reading leaves only functions behind that a document can express without loss. -/

namespace Flowprint

namespace Flowgraph

open Document Json

/-- A document can express everything about a function. -/
structure Expressible (function : Flowgraph) : Prop where
  /-- Every address is an unsigned 64-bit integer. -/
  documented : ∀ address, function.Names address → address.Documented
  /-- Blocks stand at nodes, and no node is without one. -/
  blocks : ∀ address, (function.blocks.get? address).isSome ↔ address ∈ function.nodes
  /-- Every instruction is called something. -/
  called : ∀ address block, function.blocks.get? address = some block → Called block

variable {function : Flowgraph}

/-- The function that holds nothing has nothing that could not be expressed. -/
theorem expressible_empty : Expressible empty := by
  refine ⟨?_, ?_, ?_⟩
  · intro address named
    -- No node and no edge names an address.
    simp [Names, empty, Graph.empty] at named
  · simp [empty, Graph.empty, Blocks.empty, Blocks.get?]
  · simp [empty, Blocks.empty, Blocks.get?]

/-- A node that is held brings its own block, whose instructions are all called something. -/
theorem expressible_placeNode (function : Flowgraph) (value : Json) (node : Address × Block)
    (expressible : function.Expressible) (held : HoldsNode value node) :
    (placeNode function node).Expressible := by
  obtain ⟨-, documented, entries, -, instructions⟩ := held
  -- The nodes and the blocks grow by the same address.
  have found : ∀ address, (placeNode function node).blocks.get? address =
      if node.1 = address then some node.2 else function.blocks.get? address :=
    fun address => Blocks.get?_set function.blocks node.1 address node.2
  have nodes : ∀ address, address ∈ (placeNode function node).nodes ↔
      address ∈ function.nodes ∨ address = node.1 :=
    fun address => Distinct.mem_insert
  refine ⟨?_, ?_, ?_⟩
  · -- A new address is the one of the node, which was looked at.
    intro address named
    rcases named with present | ⟨edge, present, isEnd⟩
    · rcases (nodes address).mp present with old | rfl
      · exact expressible.documented address (Or.inl old)
      · exact documented
    · exact expressible.documented address (Or.inr ⟨edge, present, isEnd⟩)
  · -- The node and its block come together.
    intro address
    rw [found, nodes, ← expressible.blocks]
    by_cases here : node.1 = address
    · simp [here]
    · simp [here, Ne.symm here]
  · -- A block is the new one or stands since before.
    intro address block standing
    rw [found] at standing
    split at standing
    · -- Every instruction of the new block is held by an entry of the node.
      cases standing
      intro instruction member
      obtain ⟨index, within, rfl⟩ := List.mem_iff_getElem.mp member
      have within' : index < entries.length := instructions.length_eq ▸ within
      exact (List.forall₂_iff_get.mp instructions).2 index within' within |>.2.1
    · exact expressible.called address block standing

/-- An edge that is held joins documented addresses, and it touches no block. -/
theorem expressible_addEdge (function : Flowgraph) (value : Json) (edge : Edge)
    (expressible : function.Expressible) (held : HoldsEdge value edge) :
    (function.addEdge edge).Expressible := by
  -- Both ends were looked at when the edge was read.
  obtain ⟨-, source, -, destination⟩ := held
  refine ⟨?_, expressible.blocks, expressible.called⟩
  -- An address is named by a node, by an edge from before or by the new one.
  intro address named
  rcases named with present | ⟨other, present, isEnd⟩
  · exact expressible.documented address (Or.inl present)
  · rcases Distinct.mem_insert.mp present with old | rfl
    · exact expressible.documented address (Or.inr ⟨other, old, isEnd⟩)
    · rcases isEnd with rfl | rfl
      · exact source
      · exact destination

/-- What one element preserves, a series of elements that are held preserves too. -/
theorem Expressible.foldl {α : Type} {place : Flowgraph → α → Flowgraph} {holds : Json → α → Prop}
    (step : ∀ function value thing, Expressible function → holds value thing →
      (place function thing).Expressible)
    {values : List Json} {things : List α} (held : List.Forall₂ holds values things)
    (expressible : function.Expressible) : (things.foldl place function).Expressible := by
  -- The induction goes along the elements, and the function is what the earlier ones have made.
  induction held generalizing function with
  | nil => exact expressible
  | cons first _ ih => exact ih (step function _ _ expressible first)

/-- Taking over a document preserves that everything can be expressed, wherever it halts. -/
theorem Expressible.takenOver {after : Flowgraph} {document : Json} {halt : Halt}
    (expressible : function.Expressible) (taken : TakenOver function document after halt) :
    after.Expressible := by
  -- Only elements that are held have been added, whether or not a bad one follows them.
  cases taken with
  | shapeless => exact expressible
  | atNode _ held => exact expressible.foldl expressible_placeNode held
  | atEdge _ heldNodes held =>
    have nodes := expressible.foldl expressible_placeNode heldNodes
    exact nodes.foldl expressible_addEdge held
  | whole _ heldNodes heldEdges =>
    have nodes := expressible.foldl expressible_placeNode heldNodes
    exact nodes.foldl expressible_addEdge heldEdges

/-- Whatever a value holds, if it is JSON at all, can be expressed. -/
theorem expressible_ofJson? (document : Option Json) : (ofJson? document).1.Expressible := by
  -- From no value there is nothing, and from a value what was taken over.
  cases document with
  | none => exact expressible_empty
  | some document =>
    rw [ofJson?_some]
    obtain ⟨halt, taken, -⟩ := exists_takenOver empty document
    exact expressible_empty.takenOver taken

/-- A function that can be expressed is admitted by a document. -/
theorem Expressible.admitted (expressible : function.Expressible) : function.Admitted := by
  -- A node has a block with it, and the instructions of that block are called something.
  refine ⟨expressible.documented, ?_⟩
  intro address present
  obtain ⟨block, found⟩ := Option.isSome_iff_exists.mp ((expressible.blocks address).mpr present)
  rw [blockAt, found]
  exact expressible.called address block found

/-- A text loses nothing of a function that can be expressed. -/
theorem Expressible.eq_of_kept (expressible : function.Expressible) {reread : Flowgraph}
    (kept : function.Kept reread) : reread = function := by
  refine Flowgraph.ext (Graph.ext kept.nodes kept.edges) (Blocks.ext_get? ?_)
  intro address
  -- A block at no node would be lost, and a node without one would get one.
  rw [kept.blocks]
  split
  · -- At a node the block is the one that was written.
    next present =>
    obtain ⟨block, found⟩ := Option.isSome_iff_exists.mp ((expressible.blocks address).mpr present)
    rw [blockAt, found]
    rfl
  · -- Where no node is, there is no block on either side.
    next absent =>
    rw [← expressible.blocks, Option.not_isSome_iff_eq_none] at absent
    exact absent.symm

/-- A function that can be expressed is written, and its text is taken over as the function. -/
theorem Expressible.rereads (expressible : function.Expressible) :
    ∃ text, function.toText = .ok text ∧ ofText text = (function, none) := by
  -- The text keeps everything but what could not be expressed.
  obtain ⟨text, reread, written, reads, kept⟩ := expressible.admitted.rereads
  rw [expressible.eq_of_kept kept] at reads
  exact ⟨text, written, reads⟩

/--
What any text or any bytes leave behind can be expressed, whether or not all was taken over.

It is therefore written without fail, and what is read back from its text is the same again.
-/
theorem parsed_rereads (input : String ⊕ ByteArray) :
    let function := (input.elim ofText ofBytes).1
    (∀ address, function.Names address → address.Documented) ∧
    (∀ address, address ∈ function.blocks.entries.map (·.1) ↔ address ∈ function.nodes) ∧
    (∀ entry ∈ function.blocks.entries, ∀ instruction ∈ entry.2, instruction.mnemonic ≠ "") ∧
    ∃ text reread, function.toText = .ok text ∧
      diagnosed Diagnosis.maxNesting (ofText text) = .ok (reread, none) ∧
      reread.nodes = function.nodes ∧ reread.edges = function.edges ∧
      reread.blocks.entries = function.blocks.entries ∧ reread.toText = .ok text := by
  intro function
  have expressible : function.Expressible := by
    -- Texts and bytes are read to a value, or to none at all.
    cases input with
    | inl text => exact expressible_ofJson? (read? text)
    | inr bytes => exact expressible_ofJson? (readBytes? bytes)
  -- The three parts of being expressible are told in terms of the lists.
  refine ⟨expressible.documented, ?_, ?_, ?_⟩
  · intro address
    rw [← expressible.blocks, Option.isSome_iff_exists]
    simp only [← Blocks.mem_entries_iff, List.mem_map, Prod.exists, exists_and_right,
      exists_eq_right]
  · intro entry member
    exact expressible.called entry.1 entry.2 (Blocks.mem_entries_iff.mp member)
  · -- A second writing starts from the same function.
    obtain ⟨text, written, reads⟩ := expressible.rereads
    refine ⟨text, function, written, ?_, rfl, rfl, rfl, written⟩
    rw [reads]
    rfl

end Flowgraph

end Flowprint
