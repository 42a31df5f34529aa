import Flowprint.Proofs.Document.Acceptance
import Flowprint.Proofs.Document.Written
import Flowprint.Proofs.Json.RoundTrip

/-! A function reads back from its text whenever a document admits everything that the text says. -/

namespace Flowprint.Flowgraph

open Document Json

/-- A document admits a function by its addresses, and by the blocks at its nodes. -/
def Admitted (function : Flowgraph) : Prop :=
  (∀ address, function.Names address → address.Documented) ∧
  ∀ address ∈ function.nodes, Called (function.blockAt address)

/-- What a text keeps of a function: everything but the blocks that stand at no node. -/
structure Kept (function reread : Flowgraph) : Prop where
  /-- The nodes are the same, in the same order. -/
  nodes : reread.nodes = function.nodes
  /-- The edges are the same, in the same order. -/
  edges : reread.edges = function.edges
  /-- Every node has its block, which is empty where there was none, and nothing else has one. -/
  blocks : ∀ address, reread.blocks.get? address =
    if address ∈ function.nodes then some (function.blockAt address) else none

/-- Placing nodes adds their addresses one after another. -/
theorem nodes_foldl_placeNode (held : List (Address × Block)) (function : Flowgraph) :
    (held.foldl placeNode function).nodes =
      (held.map (·.1)).foldl Distinct.insert function.nodes := by
  -- A block that is set leaves the nodes alone.
  induction held generalizing function with
  | nil => rfl
  | cons first rest ih =>
    rw [List.foldl_cons, ih, List.map_cons, List.foldl_cons]
    rfl

/-- Placing nodes adds no edge. -/
theorem edges_foldl_placeNode (held : List (Address × Block)) (function : Flowgraph) :
    (held.foldl placeNode function).edges = function.edges := by
  -- Neither a node nor a block touches the edges.
  induction held generalizing function with
  | nil => rfl
  | cons first rest ih =>
    rw [List.foldl_cons, ih]
    rfl

/-- Placing nodes gives each of them its block and leaves the other addresses alone. -/
theorem get?_foldl_placeNode (block : Address → Block) (addresses : List Address)
    (function : Flowgraph) (address : Address) :
    ((addresses.map fun start => (start, block start)).foldl placeNode function).blocks.get?
        address =
      if address ∈ addresses then some (block address) else function.blocks.get? address := by
  -- An address that comes twice gets the same block twice.
  induction addresses generalizing function with
  | nil => simp
  | cons first rest ih =>
    have placed : (placeNode function (first, block first)).blocks.get? address =
        if first = address then some (block first) else function.blocks.get? address :=
      Blocks.get?_set function.blocks first address (block first)
    rw [List.map_cons, List.foldl_cons, ih, placed]
    by_cases later : address ∈ rest
    · simp [later]
    · -- The address is the first one, or it is not among the addresses at all.
      by_cases here : first = address
      · simp [here]
      · simp [later, here, Ne.symm here]

/-- Adding edges puts them behind the old ones, and nothing but edges changes. -/
theorem foldl_addEdge (edges : List Edge) (function : Flowgraph) :
    (edges.foldl addEdge function).edges = edges.foldl Distinct.insert function.edges ∧
    (edges.foldl addEdge function).nodes = function.nodes ∧
    (edges.foldl addEdge function).blocks = function.blocks := by
  -- One more edge goes behind the old ones before the rest is added.
  induction edges generalizing function with
  | nil => exact ⟨rfl, rfl, rfl⟩
  | cons first rest ih => exact ih (function.addEdge first)

/-- A function that is built from the parts of another keeps what a text says of that one. -/
theorem kept_parts (function : Flowgraph) :
    function.Kept (function.edges.foldl addEdge
      ((function.nodes.map fun address => (address, function.blockAt address)).foldl placeNode
        empty)) := by
  -- Neither the nodes nor the edges of a function repeat, so each of them is put at the end.
  obtain ⟨edges, nodes, blocks⟩ := foldl_addEdge function.edges
    ((function.nodes.map fun address => (address, function.blockAt address)).foldl placeNode empty)
  refine ⟨?_, ?_, ?_⟩
  · -- The nodes are placed one by one, each with the address that it had.
    rw [nodes, nodes_foldl_placeNode, List.map_map]
    show (function.nodes.map id).foldl Distinct.insert [] = function.nodes
    rw [List.map_id]
    exact Distinct.ofList_eq_self function.nodes_distinct
  · -- The edges are added one by one.
    rw [edges, edges_foldl_placeNode]
    exact Distinct.ofList_eq_self function.edges_distinct
  · -- The block at an address is the one that was placed last, which is the only one.
    intro address
    rw [blocks, get?_foldl_placeNode]
    rfl

/-- The elements of a function's document are its nodes and its edges. -/
theorem lists_toJson {function : Flowgraph} {nodes edges : List Json} :
    Document.Lists function.toJson nodes edges ↔
      nodes = function.nodes.map function.nodeJson ∧ edges = function.edges.map edgeJson := by
  -- The document has the two fields, and each of them is the array of its elements.
  simp [Document.Lists, toJson, field?, eq_comm]

/-- A node that is not taken over keeps a function from being admitted. -/
theorem not_admitted_of_node {function : Flowgraph} {good rest edges : List Json} {bad : Json}
    (lists : Document.Lists function.toJson (good ++ bad :: rest) edges)
    (refused : ∀ node, ¬HoldsNode bad node) : ¬function.Admitted := by
  -- The bad value is the object of some node, and an admitted node is held by its object.
  rintro ⟨documented, called⟩
  have member : bad ∈ function.nodes.map function.nodeJson := by
    rw [← (lists_toJson.mp lists).1]
    simp
  obtain ⟨address, present, rfl⟩ := List.mem_map.mp member
  exact refused _ (holdsNode_nodeJson.mpr
    ⟨rfl, documented address (Or.inl present), called address present⟩)

/-- An edge that is not taken over keeps a function from being admitted. -/
theorem not_admitted_of_edge {function : Flowgraph} {nodes good rest : List Json} {bad : Json}
    (lists : Document.Lists function.toJson nodes (good ++ bad :: rest))
    (refused : ∀ edge, ¬HoldsEdge bad edge) : ¬function.Admitted := by
  -- Both ends of an edge are addresses of the function.
  rintro ⟨documented, -⟩
  have member : bad ∈ function.edges.map edgeJson := by
    rw [← (lists_toJson.mp lists).2]
    simp
  obtain ⟨edge, present, rfl⟩ := List.mem_map.mp member
  have first := documented edge.1 (Or.inr ⟨edge, present, Or.inl rfl⟩)
  have second := documented edge.2 (Or.inr ⟨edge, present, Or.inr rfl⟩)
  exact refused edge (holdsEdge_edgeJson.mpr ⟨rfl, first, second⟩)

/-- Taking over the document of a function halts nowhere exactly if the function is admitted. -/
theorem takenOver_toJson {function after : Flowgraph} {halt : Halt}
    (taken : TakenOver empty function.toJson after halt) :
    (halt = .nowhere → function.Admitted ∧ function.Kept after) ∧
      (function.Admitted → halt = .nowhere) := by
  -- Every other halt is at an element that is not admitted.
  cases taken with
  -- The document has the shape of one.
  | shapeless other => exact absurd (lists_toJson.mpr ⟨rfl, rfl⟩) (other _ _)
  | atNode lists _ refused =>
    refine ⟨?_, fun admitted => absurd admitted (not_admitted_of_node lists refused)⟩
    -- A refused node is a halt, so it is not the one at the end.
    intro impossible
    cases impossible
  | atEdge lists _ _ refused =>
    refine ⟨?_, fun admitted => absurd admitted (not_admitted_of_edge lists refused)⟩
    intro impossible
    cases impossible
  | whole lists heldNodes heldEdges =>
    -- Each element of the document holds the node or the edge that it was written for.
    obtain ⟨rfl, rfl⟩ := lists_toJson.mp lists
    obtain ⟨rfl, nodes⟩ := (forall₂_map_iff _ fun _ _ => holdsNode_nodeJson).mp heldNodes
    obtain ⟨rfl, edges⟩ := (forall₂_map_iff id fun _ _ => holdsEdge_edgeJson).mp heldEdges
    rw [List.map_id]
    refine ⟨fun _ => ⟨⟨?_, fun address present => (nodes address present).2⟩, function.kept_parts⟩,
      fun _ => rfl⟩
    -- What the document names are its nodes and the ends of its edges.
    rintro address (present | ⟨edge, present, rfl | rfl⟩)
    · exact (nodes address present).1
    · exact (edges edge present).1
    · exact (edges edge present).2

/-- Writing fails exactly on an address that does not fit, and it fails in no other way. -/
theorem toText_eq_error_iff {function : Flowgraph} {fault : Fault} :
    function.toText = .error fault ↔
      fault = .wideInteger ∧ ∃ address, function.Names address ∧ ¬Fits address := by
  -- The document is shallow, so nothing but an address can stand in the way.
  have writable : function.toJson.obstacle? 0 = none ↔ _ := obstacle?_toJson
  cases found : function.toJson.obstacle? 0 with
  | none =>
    -- Without an obstacle there is a text, and then every address fits.
    have fits := writable.mp found
    simp only [toText, text, found, reduceCtorEq, false_iff]
    rintro ⟨-, address, named, wide⟩
    exact wide (fits address named)
  | some obstacle =>
    have shallow : 0 + function.toJson.nesting ≤ maxWrittenDepth := by
      have small : 7 ≤ maxWrittenDepth := by decide
      have bound : function.toJson.nesting ≤ 7 := nesting_toJson
      omega
    -- An obstacle there means that some address is too wide.
    have wide : ∃ address, function.Names address ∧ ¬Fits address := by
      by_contra none
      push Not at none
      rw [writable.mpr none] at found
      cases found
    obtain rfl := obstacle?_eq_wideInteger _ shallow found
    simp only [toText, text, found, Except.error.injEq, wide, and_true, eq_comm]

/-- An admitted function is written, and everything that its text keeps is read back. -/
theorem Admitted.rereads {function : Flowgraph} (admitted : function.Admitted) :
    ∃ text reread, function.toText = .ok text ∧ ofText text = (reread, none) ∧
      function.Kept reread := by
  -- Documented addresses fit into 64 bits, so nothing stands in the way of writing.
  have fits : ∀ address, function.Names address → Fits address :=
    fun address named => (admitted.1 address named).fits
  cases written : function.toText with
  | error fault =>
    obtain ⟨-, address, named, wide⟩ := toText_eq_error_iff.mp written
    exact absurd (fits address named) wide
  | ok text =>
    have reads : ofText text = empty.addDocument function.toJson := by
      rw [ofText, read?_text exact_toJson written, ofJson?_some]
    -- The document is admitted, so taking it over halts nowhere and keeps everything.
    obtain ⟨halt, taken, answer⟩ := exists_takenOver empty function.toJson
    obtain ⟨kept, ends⟩ := takenOver_toJson taken
    have nowhere : halt = .nowhere := ends admitted
    have complete : (empty.addDocument function.toJson).2 = none := by
      rcases answer with ⟨-, complete⟩ | ⟨diagnosis, explained, -⟩
      · exact complete
      · rw [nowhere] at explained
        cases explained
    refine ⟨text, (empty.addDocument function.toJson).1, rfl, ?_, (kept nowhere).2⟩
    rw [reads, ← Prod.eta (empty.addDocument function.toJson), complete]

/--
A function is written unless an address does not fit into 64 bits, and then it is read back.

Reading takes everything over exactly if no address is negative and every mnemonic at a node has
letters; the nodes, the edges and the blocks at the nodes are then what they were.
-/
theorem ofText_toText (function : Flowgraph) :
    (∀ fault, function.toText = .error fault ↔
      fault = .wideInteger ∧ ∃ address, function.Names address ∧ ¬Fits address) ∧
    ∀ text, function.toText = .ok text → ∃ reread why,
      diagnosed Diagnosis.maxNesting (ofText text) = .ok (reread, why) ∧
      (why = none ↔ (∀ address, function.Names address → 0 ≤ address) ∧
        ∀ address ∈ function.nodes, ∀ instruction ∈ function.blockAt address,
          instruction.mnemonic ≠ "") ∧
      (why = none → reread.nodes = function.nodes ∧ reread.edges = function.edges ∧
        ∀ address, reread.blocks.get? address =
          if address ∈ function.nodes then some (function.blockAt address) else none) := by
  refine ⟨fun _ => toText_eq_error_iff, ?_⟩
  intro text written
  -- What was written has no obstacle in it, and it reads as the document itself.
  have fits : ∀ address, function.Names address → Fits address := by
    by_contra wide
    push Not at wide
    rw [toText_eq_error_iff.mpr ⟨rfl, wide⟩] at written
    cases written
  have reads : ofText text = empty.addDocument function.toJson := by
    rw [ofText, read?_text exact_toJson written, ofJson?_some]
  -- Nonnegative addresses that fit are the documented ones.
  have admitted : function.Admitted ↔ (∀ address, function.Names address → 0 ≤ address) ∧
      ∀ address ∈ function.nodes, ∀ instruction ∈ function.blockAt address,
        instruction.mnemonic ≠ "" := by
    refine and_congr_left' ⟨?_, ?_⟩
    · intro documented address named
      exact (documented address named).1
    · intro nonnegative address named
      exact ⟨nonnegative address named, (fits address named).2⟩
  -- What became of the document is known, and the diagnosis is compared with it.
  obtain ⟨halt, taken, answer⟩ := exists_takenOver empty function.toJson
  obtain ⟨kept, ends⟩ := takenOver_toJson taken
  rcases outcome : empty.addDocument function.toJson with ⟨reread, why⟩
  rw [outcome] at answer kept
  refine ⟨reread, why, ?_, ?_, ?_⟩
  · rw [reads, outcome]
    rcases answer with ⟨-, rfl⟩ | ⟨diagnosis, explained, rfl⟩
    · -- Without a diagnosis there is nothing to be quoted.
      rfl
    · -- What a diagnosis quotes stands in the document, which is shallow.
      have quoted : diagnosis.nesting ≤ Diagnosis.maxNesting := by
        have small : 7 ≤ Diagnosis.maxNesting := by decide
        have inside := taken.nesting_le explained
        have bound : function.toJson.nesting ≤ 7 := nesting_toJson
        omega
      simp [diagnosed, Diagnosis.obstacle?, quoted]
  · rw [← admitted]
    rcases answer with ⟨nowhere, rfl⟩ | ⟨diagnosis, explained, rfl⟩
    · -- Nothing was refused, and everything is admitted.
      simp [(kept nowhere).1]
    · -- A halt that is explained is somewhere.
      have somewhere : halt ≠ .nowhere := by
        rintro rfl
        cases explained
      simpa using fun admits => somewhere (ends admits)
  · -- Nothing was refused, so everything was kept.
    intro complete
    have nowhere : halt = .nowhere := by
      rcases answer with ⟨nowhere, -⟩ | ⟨diagnosis, -, given⟩
      · exact nowhere
      · simp [complete] at given
    obtain ⟨nodes, edges, blocks⟩ := (kept nowhere).2
    exact ⟨nodes, edges, blocks⟩

end Flowprint.Flowgraph
