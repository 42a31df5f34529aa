import Flowprint.Feature.Summary
import Flowprint.Proofs.Document.Expressible
import Flowprint.Proofs.Feature.Collection
import Flowprint.Proofs.Feature.Ngram
import Flowprint.Proofs.Flowgraph.History
import Flowprint.Proofs.Graph.Alike
import Flowprint.Rendering.Listing

/-!
The order of the nodes and of the edges in a document does not show in the features.

It shows in the order in which features are recorded, and in the order of edges inside them.
-/

namespace Flowprint

namespace Document

/-- A value holds one node at most. -/
theorem HoldsNode.unique {value : Json} {first second : Address × Block}
    (one : HoldsNode value first) (other : HoldsNode value second) : first = second := by
  -- What is held is what is read, and reading has one answer.
  rw [← node_eq_ok_iff] at one other
  exact Except.ok.inj (one.symm.trans other)

/-- A value holds one edge at most. -/
theorem HoldsEdge.unique {value : Json} {first second : Edge}
    (one : HoldsEdge value first) (other : HoldsEdge value second) : first = second := by
  -- An edge is read in one way as well.
  rw [← edge_eq_ok_iff] at one other
  exact Except.ok.inj (one.symm.trans other)

/-- Elements are taken over without a diagnosis exactly when all of them are good. -/
theorem addAll_eq_none_iff {α : Type} {add : Flowgraph → Json → Flowgraph × Option Diagnosis}
    {place : Flowgraph → α → Flowgraph} {holds : Json → α → Prop}
    {refuses : Json → Diagnosis → Prop}
    (step : ∀ function value,
      (∃ thing, holds value thing ∧ add function value = (place function thing, none)) ∨
      ∃ diagnosis, (∀ thing, ¬holds value thing) ∧ refuses value diagnosis ∧
        add function value = (function, some diagnosis))
    (unique : ∀ {value first second}, holds value first → holds value second → first = second)
    {function after : Flowgraph} {values : List Json} :
    addAll add function values = (after, none) ↔
      ∃ things, List.Forall₂ holds values things ∧ after = things.foldl place function := by
  induction values generalizing function with
  | nil => simp [addAll, eq_comm]
  | cons value rest ih =>
    simp only [addAll, List.forall₂_cons_left_iff]
    rcases step function value with ⟨thing, held, result⟩ | ⟨diagnosis, unheld, -, result⟩
    · -- The first element is good, so the others decide.
      simp only [result, ih]
      constructor
      · intro taken
        obtain ⟨things, all, rfl⟩ := taken
        exact ⟨thing :: things, ⟨thing, things, held, all, rfl⟩, rfl⟩
      · intro taken
        obtain ⟨_, ⟨other, things, alsoHeld, all, rfl⟩, rfl⟩ := taken
        obtain rfl := unique held alsoHeld
        exact ⟨things, all, rfl⟩
    · -- The first element is bad, and nothing is held by it.
      simp [result, unheld]

/-- A document is taken over without a diagnosis exactly when nothing in it is bad. -/
theorem addDocument_eq_none_iff {function after : Flowgraph} {document : Json}
    {values edgeValues : List Json} (lists : Lists document values edgeValues) :
    function.addDocument document = (after, none) ↔ ∃ nodes edges,
      List.Forall₂ HoldsNode values nodes ∧ List.Forall₂ HoldsEdge edgeValues edges ∧
        after = edges.foldl Flowgraph.addEdge (nodes.foldl placeNode function) := by
  obtain ⟨atNodes, atEdges⟩ := lists
  -- Each of the two arrays is taken over completely exactly if all of it is held.
  have nodes : ∀ {middle}, addAll Flowgraph.addNodeJson function values = (middle, none) ↔
      ∃ nodes, List.Forall₂ HoldsNode values nodes ∧ middle = nodes.foldl placeNode function :=
    addAll_eq_none_iff addNodeJson_eq HoldsNode.unique
  have edges : ∀ {middle}, addAll Flowgraph.addEdgeJson middle edgeValues = (after, none) ↔
      ∃ edges, List.Forall₂ HoldsEdge edgeValues edges ∧
        after = edges.foldl Flowgraph.addEdge middle :=
    addAll_eq_none_iff addEdgeJson_eq HoldsEdge.unique
  simp only [Flowgraph.addDocument, atNodes, atEdges, Json.items?]
  -- The nodes decide first, and edges are added to what the nodes have made.
  rcases outcome : addAll Flowgraph.addNodeJson function values with ⟨middle, _ | diagnosis⟩
  · obtain ⟨held, all, rfl⟩ := nodes.mp outcome
    dsimp only
    rw [edges]
    constructor
    · -- Behind the nodes, everything is about the edges.
      intro taken
      obtain ⟨more, allEdges, result⟩ := taken
      exact ⟨held, more, all, allEdges, result⟩
    · -- The nodes that are held were read before, so the edges go on from the same function.
      intro taken
      obtain ⟨other, more, allNodes, allEdges, result⟩ := taken
      have same := nodes.mpr ⟨other, allNodes, rfl⟩
      rw [outcome, Prod.mk.injEq] at same
      exact ⟨more, allEdges, same.1 ▸ result⟩
  · -- A diagnosis of a node stands, whatever the edges are.
    constructor
    · intro taken
      cases taken
    · intro taken
      obtain ⟨other, -, allNodes, -⟩ := taken
      have same := nodes.mpr ⟨other, allNodes, rfl⟩
      rw [outcome] at same
      cases same

end Document

/-- Two functions differ at most in the order in which their nodes and edges were added. -/
structure Flowgraph.Shuffled (first second : Flowgraph) : Prop where
  /-- The nodes are the same ones. -/
  nodes : first.nodes.Perm second.nodes
  /-- The edges are the same ones. -/
  edges : first.edges.Perm second.edges
  /-- The code is the same. -/
  blocks : first.blocks = second.blocks

/-- Two records differ at most in the order of their edges. -/
def Neighbourhood.Agrees (first second : Neighbourhood) : Prop :=
  first.center = second.center ∧ first.distance = second.distance ∧
    first.nodes = second.nodes ∧ first.edges.Perm second.edges

namespace Flowgraph

open Document

/-- Elements of a document may be added in any order, if every node has an address of its own. -/
theorem shuffled_of_perm {held reheld : List (Address × Block)} {edges reedges : List Edge}
    (starts : (held.map (·.1)).Nodup) (nodes : held.Perm reheld) (joins : edges.Perm reedges) :
    Shuffled (edges.foldl addEdge (held.foldl placeNode empty))
      (reedges.foldl addEdge (reheld.foldl placeNode empty)) := by
  obtain ⟨listed, placed, coded⟩ := foldl_addEdge edges (held.foldl placeNode empty)
  obtain ⟨relisted, replaced, recoded⟩ := foldl_addEdge reedges (reheld.foldl placeNode empty)
  refine ⟨?_, ?_, ?_⟩
  · -- Nothing is left out where no address comes twice.
    have order := nodes.map (·.1)
    rw [placed, replaced, nodes_foldl_placeNode, nodes_foldl_placeNode]
    change (Distinct.ofList (held.map (·.1))).Perm (Distinct.ofList (reheld.map (·.1)))
    rw [Distinct.ofList_eq_self starts, Distinct.ofList_eq_self (order.nodup_iff.mp starts)]
    exact order
  · -- An edge that comes twice is added once, wherever it comes.
    rw [listed, relisted, edges_foldl_placeNode, edges_foldl_placeNode]
    change (Distinct.ofList edges).Perm (Distinct.ofList reedges)
    refine (List.perm_ext_iff_of_nodup (Distinct.nodup_ofList _) (Distinct.nodup_ofList _)).mpr ?_
    intro edge
    rw [Distinct.mem_ofList, Distinct.mem_ofList, joins.mem_iff]
  · have blocks : ∀ (held : List (Address × Block)) (function : Flowgraph),
        (held.foldl placeNode function).blocks =
          held.foldl (fun blocks node => blocks.set node.1 node.2) function.blocks := by
      intro held
      induction held with
      | nil => exact fun _ => rfl
      | cons first rest ih => exact fun function => ih (placeNode function first)
    rw [coded, recoded, blocks, blocks]
    -- Two different nodes have different addresses, so their blocks do not meet.
    refine nodes.foldl_eq' ?_ _
    intro first here second there before
    by_cases same : first = second
    · rw [same]
    · exact Blocks.set_comm before
        (fun equal => same (List.inj_on_of_nodup_map starts here there equal)) _ _

variable {first second : Flowgraph}

/-- Functions that differ in such an order have the same neighbourhoods up to the order of edges. -/
theorem Shuffled.alike (shuffled : Shuffled first second) :
    Graph.Alike first.toGraph second.toGraph :=
  -- Both conditions are about membership only, which order does not touch.
  ⟨fun _ => shuffled.nodes.mem_iff, fun _ _ _ _ => shuffled.edges.mem_iff⟩

/-- The two functions have the same n-grams. -/
theorem Shuffled.ngrams (shuffled : Shuffled first second) (size : Int) :
    second.ngrams size = first.ngrams size :=
  -- The blocks are the same, and n-grams look at nothing else.
  ngrams_congr (congrArg Blocks.instructions shuffled.blocks.symm) size

/-- A request is served alike in both functions. -/
theorem Shuffled.entry (shuffled : Shuffled first second) (request : Address × Nat)
    (distance : Nat) :
    (Features.entry first.toGraph request distance).Agrees
      (Features.entry second.toGraph request distance) := by
  -- A neighbourhood is the same up to the order of its edges.
  obtain ⟨nodes, edges⟩ := shuffled.alike.neighbourhood request.1 request.2 maxSubgraphNodes
  exact ⟨rfl, rfl, nodes, edges⟩

/-- The two functions have the same records, in another order and up to the order of edges. -/
theorem Shuffled.entries (shuffled : Shuffled first second) :
    ∃ entries : List Neighbourhood,
      List.Forall₂ Neighbourhood.Agrees
        ((Generator.requestsFor first.nodes).map fun request =>
          Features.entry first.toGraph request request.2) entries ∧
      entries.Perm ((Generator.requestsFor second.nodes).map fun request =>
        Features.entry second.toGraph request request.2) := by
  refine ⟨(Generator.requestsFor first.nodes).map fun request =>
    Features.entry second.toGraph request request.2, ?_, ?_⟩
  · rw [List.forall₂_map_left_iff, List.forall₂_map_right_iff, List.forall₂_same]
    exact fun request _ => shuffled.entry request request.2
  · -- Either round goes through the same nodes.
    rw [Generator.requestsFor_eq, Generator.requestsFor_eq]
    exact ((shuffled.nodes.map _).append (shuffled.nodes.map _)).map _

/-- Records that agree and come in another order are summarised alike. -/
theorem Shuffled.summary (shuffled : Shuffled first second) {records entries others}
    {tuples : List (List String)} (agree : List.Forall₂ Neighbourhood.Agrees records entries)
    (order : entries.Perm others) (name : Json) :
    Summary.ofFeatures name second.toGraph ⟨others, tuples⟩ =
      Summary.ofFeatures name first.toGraph ⟨records, tuples⟩ := by
  -- The sizes of the records are the same one by one.
  have sizes : records.map (·.nodes.length) = entries.map (·.nodes.length) := by
    rw [← List.forall₂_eq_eq_eq, List.forall₂_map_left_iff, List.forall₂_map_right_iff]
    exact agree.imp fun _ _ same => congrArg List.length same.2.2.1
  -- The largest of them does not depend on the order.
  have largest : (others.map (·.nodes.length)).foldl max 0 =
      (records.map (·.nodes.length)).foldl max 0 := by
    rw [sizes]
    exact ((order.map _).foldl_eq 0).symm
  simp only [Summary.ofFeatures, Graph.size, shuffled.nodes.length_eq, shuffled.edges.length_eq,
    agree.length_eq, order.length_eq, largest]

end Flowgraph

namespace Document

/--
Taking over a document with its nodes and its edges in another order gives the same features.

It is taken over completely, and code, listing and n-grams are the same. Neighbourhoods have the
same nodes in the same order of visit, and the same edges. What is recorded differs in the order
of the records and of the edges in a record, but not in the distance or in anything else.
-/
theorem addDocument_reordered {document reordered : Json} {nodes edges renodes reedges : List Json}
    (lists : Lists document nodes edges) (relists : Lists reordered renodes reedges)
    (nodeOrder : nodes.Perm renodes) (edgeOrder : edges.Perm reedges)
    (distinct : (nodes.map (·.field? "address")).Nodup)
    (accepted : (Flowgraph.empty.addDocument document).2 = none) :
    let function := (Flowgraph.empty.addDocument document).1
    let other := (Flowgraph.empty.addDocument reordered).1
    (Flowgraph.empty.addDocument reordered).2 = none ∧
    other.blocks = function.blocks ∧
    other.listing = function.listing ∧
    (∀ size, other.ngrams size = function.ngrams size) ∧
    (∀ center distance maxSize,
      (function.neighbourhood center distance maxSize).nodes =
        (other.neighbourhood center distance maxSize).nodes ∧
      (function.neighbourhood center distance maxSize).edges.Perm
        (other.neighbourhood center distance maxSize).edges) ∧
    ∃ features others,
      (Features.collect (Generator.new function) function.toGraph function.size).1 =
        .ok features ∧
      (Features.collect (Generator.new other) other.toGraph other.size).1 = .ok others ∧
      (∀ distance, ∃ entries,
        List.Forall₂ Neighbourhood.Agrees
          (features.subgraphs.filter (·.distance = distance)) entries ∧
        entries.Perm (others.subgraphs.filter (·.distance = distance))) ∧
      others.tuples = features.tuples ∧
      ∀ name, Summary.ofFeatures name other.toGraph others =
        Summary.ofFeatures name function.toGraph features := by
  intro function other
  -- Acceptance says that every element is held, and by what.
  obtain ⟨held, joins, heldNodes, heldEdges, taken⟩ := (addDocument_eq_none_iff lists).mp
    (show _ = (function, none) from Prod.ext rfl accepted)
  -- The same elements are held in the other order, so the other document is taken over as well.
  obtain ⟨reheld, reheldNodes, heldOrder⟩ := List.perm_comp_forall₂ nodeOrder.symm heldNodes
  obtain ⟨rejoins, reheldEdges, joinOrder⟩ := List.perm_comp_forall₂ edgeOrder.symm heldEdges
  have retaken : Flowgraph.empty.addDocument reordered = (_, none) :=
    (addDocument_eq_none_iff relists).mpr ⟨reheld, rejoins, reheldNodes, reheldEdges, rfl⟩
  -- The addresses of the nodes are distinct as values, and so they are as addresses.
  have addresses : nodes.map (·.field? "address") =
      (held.map (·.1)).map fun start => some (.integer start) := by
    rw [List.map_map, ← List.forall₂_eq_eq_eq, List.forall₂_map_left_iff,
      List.forall₂_map_right_iff]
    exact heldNodes.imp fun _ _ holds => holds.1
  have starts : (held.map (·.1)).Nodup := (addresses ▸ distinct).of_map
  -- So the two functions differ in the order of nodes and edges only.
  have shuffled : function.Shuffled other := by
    have result : other = _ := congrArg Prod.fst retaken
    rw [taken, result]
    exact Flowgraph.shuffled_of_perm starts heldOrder.symm joinOrder.symm
  obtain ⟨entries, agree, order⟩ := shuffled.entries
  have ngrams := shuffled.ngrams
  refine ⟨congrArg Prod.snd retaken, shuffled.blocks.symm, ?_, ngrams,
    shuffled.alike.neighbourhood, _, _, congrArg Prod.fst (Features.collect_new function),
    congrArg Prod.fst (Features.collect_new other), ?_, ngrams _, ?_⟩
  · -- The listing is made of the blocks.
    rw [Flowgraph.listing, Flowgraph.listing, shuffled.blocks]
  · -- Records that agree are labelled with the same distance.
    intro distance
    refine ⟨entries.filter (·.distance = distance), ?_, order.filter _⟩
    refine List.rel_filter ?_ agree
    intro first second same
    simp only [same.2.1]
  · -- The counts and the tuple of a summary do not depend on the order.
    intro name
    rw [ngrams]
    exact shuffled.summary agree order name

/-- Two nodes that are joined both ways, listed in either order. -/
theorem addDocument_reordered_pair :
    let node (address : Int) (mnemonics : List String) : Json :=
      .object [("address", .integer address), ("instructions", .array (mnemonics.map fun mnemonic =>
        .object [("mnemonic", .string mnemonic), ("operands", .array [])]))]
    let edge (source destination : Int) : Json :=
      .object [("source", .integer source), ("destination", .integer destination)]
    let nodes := [node 5 ["b", "c"], node 3 ["a"]]
    let edges := [edge 5 3, edge 3 5]
    let document : Json := .object [("nodes", .array nodes), ("edges", .array edges)]
    let reordered : Json :=
      .object [("nodes", .array nodes.reverse), ("edges", .array edges.reverse)]
    Lists document nodes edges ∧ Lists reordered nodes.reverse edges.reverse ∧
    (nodes.map (·.field? "address")).Nodup ∧
    (Flowgraph.empty.addDocument document).2 = none ∧
    (Flowgraph.empty.addDocument reordered).2 = none ∧
    (Flowgraph.empty.addDocument reordered).1.ngrams 3 = [["a", "b", "c"]] ∧
    [5, 3] = ((Flowgraph.empty.addDocument reordered).1.neighbourhood 5 2 30).nodes := by
  intro node edge nodes edges document reordered
  -- The two nodes have different addresses.
  have distinct : (nodes.map (·.field? "address")).Nodup := by
    simp [nodes, node, Json.field?]
  have accepted : (Flowgraph.empty.addDocument document).2 = none := rfl
  have lists : Lists document nodes edges := ⟨rfl, rfl⟩
  have relists : Lists reordered nodes.reverse edges.reverse := ⟨rfl, rfl⟩
  -- Acceptance of the other order and everything that is computed in it come from the theorem.
  obtain ⟨reaccepted, -, -, ngrams, neighbourhoods, -⟩ := addDocument_reordered lists relists
    nodes.reverse_perm.symm edges.reverse_perm.symm distinct accepted
  refine ⟨lists, relists, distinct, accepted, reaccepted, (ngrams 3).trans ?_, ?_⟩
  · decide +kernel
  · refine Eq.trans ?_ (neighbourhoods 5 2 30).1
    decide +kernel

end Document

end Flowprint
