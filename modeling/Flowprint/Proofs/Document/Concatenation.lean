import Flowprint.Proofs.Document.Reordering

/-!
Taking over one document after another is taking over the elements of both at once.

Nodes and edges come in another order then, and it makes no difference in which.
-/

namespace Flowprint

/-- What a list in two parts is related to has two parts as well. -/
theorem forall₂_append_left_iff {α β : Type} {related : α → β → Prop} {first second : List α}
    {things : List β} :
    List.Forall₂ related (first ++ second) things ↔ ∃ front back,
      List.Forall₂ related first front ∧ List.Forall₂ related second back ∧
        things = front ++ back := by
  constructor
  · -- Each element of the first part takes one thing from the front.
    intro all
    induction first generalizing things with
    | nil => exact ⟨[], things, .nil, all, rfl⟩
    | cons item rest ih =>
      obtain ⟨thing, others, here, later, rfl⟩ := List.forall₂_cons_left_iff.mp all
      obtain ⟨front, back, before, behind, rfl⟩ := ih later
      exact ⟨thing :: front, back, .cons here before, behind, rfl⟩
  · rintro ⟨front, back, before, behind, rfl⟩
    exact List.rel_append before behind

namespace Document

/-- Adding an edge and placing a node touch different parts, so either may come first. -/
theorem placeNode_addEdge (function : Flowgraph) (edge : Edge) (node : Address × Block) :
    placeNode (function.addEdge edge) node = (placeNode function node).addEdge edge := by
  -- One changes the edges, the other the nodes and the blocks.
  rfl

/-- All edges of one document may wait until all nodes of the next one are placed. -/
theorem foldl_placeNode_foldl_addEdge (function : Flowgraph) (edges : List Edge)
    (nodes : List (Address × Block)) :
    nodes.foldl placeNode (edges.foldl Flowgraph.addEdge function) =
      edges.foldl Flowgraph.addEdge (nodes.foldl placeNode function) := by
  -- One edge passes all nodes, and then the edges pass one after another.
  have passes : ∀ (function : Flowgraph) (edge : Edge),
      (nodes.foldl placeNode function).addEdge edge =
        nodes.foldl placeNode (function.addEdge edge) := by
    intro function edge
    exact (List.foldl_hom (fun function => Flowgraph.addEdge function edge)
      fun function node => placeNode_addEdge function edge node).symm
  exact (List.foldl_hom (fun function => nodes.foldl placeNode function) passes).symm

/-- The answer is given without a diagnosis exactly when there is none. -/
theorem diagnosed_eq_ok_none_iff {room : Nat} {result : Flowgraph × Option Diagnosis}
    {after : Flowgraph} : diagnosed room result = .ok (after, none) ↔ result = (after, none) := by
  obtain ⟨reached, _ | diagnosis⟩ := result
  · simp [diagnosed]
  · -- A diagnosis is kept, or it is lost and nothing is answered.
    simp only [diagnosed, Option.bind_some, Prod.mk.injEq, reduceCtorEq, and_false, iff_false]
    split
    · intro impossible
      cases impossible
    · intro impossible
      cases impossible

/--
A document with the elements of two others is accepted exactly when both of them are accepted.

It makes no difference in which function the second one is accepted. The elements of both at once
make of a function what the one document makes of it, and then the other one.
-/
theorem addDocument_concatenated (room : Nat) (function other : Flowgraph)
    {first second whole : Json} {nodes renodes edges reedges : List Json}
    (one : Lists first nodes edges) (two : Lists second renodes reedges)
    (both : Lists whole (nodes ++ renodes) (edges ++ reedges)) :
    ((∃ after, diagnosed room (function.addDocument whole) = .ok (after, none)) ↔
      (∃ middle, diagnosed room (function.addDocument first) = .ok (middle, none)) ∧
        ∃ after, diagnosed room (other.addDocument second) = .ok (after, none)) ∧
    ∀ after, diagnosed room (function.addDocument whole) = .ok (after, none) ↔
      ∃ middle, diagnosed room (function.addDocument first) = .ok (middle, none) ∧
        diagnosed room (middle.addDocument second) = .ok (after, none) := by
  simp only [diagnosed_eq_ok_none_iff, addDocument_eq_none_iff one, addDocument_eq_none_iff two,
    addDocument_eq_none_iff both, forall₂_append_left_iff]
  refine ⟨⟨?_, ?_⟩, fun after => ⟨?_, ?_⟩⟩
  · -- Whether an element is good does not depend on the function.
    rintro ⟨-, -, -, ⟨held, reheld, heldNodes, reheldNodes, rfl⟩,
      ⟨joins, rejoins, heldEdges, reheldEdges, rfl⟩, -⟩
    exact ⟨⟨_, held, joins, heldNodes, heldEdges, rfl⟩,
      ⟨_, reheld, rejoins, reheldNodes, reheldEdges, rfl⟩⟩
  · -- What both documents hold is held by the whole, one behind the other.
    rintro ⟨⟨-, held, joins, heldNodes, heldEdges, -⟩,
      ⟨-, reheld, rejoins, reheldNodes, reheldEdges, -⟩⟩
    exact ⟨_, _, _, ⟨held, reheld, heldNodes, reheldNodes, rfl⟩,
      ⟨joins, rejoins, heldEdges, reheldEdges, rfl⟩, rfl⟩
  · -- The first edges are added before the second nodes now, which is the same.
    rintro ⟨-, -, ⟨held, reheld, heldNodes, reheldNodes, rfl⟩,
      ⟨joins, rejoins, heldEdges, reheldEdges, rfl⟩, rfl⟩
    refine ⟨_, ⟨held, joins, heldNodes, heldEdges, rfl⟩,
      ⟨reheld, rejoins, reheldNodes, reheldEdges, ?_⟩⟩
    rw [List.foldl_append, List.foldl_append, foldl_placeNode_foldl_addEdge]
  · rintro ⟨-, ⟨held, joins, heldNodes, heldEdges, rfl⟩,
      ⟨reheld, rejoins, reheldNodes, reheldEdges, rfl⟩⟩
    refine ⟨_, _, ⟨held, reheld, heldNodes, reheldNodes, rfl⟩,
      ⟨joins, rejoins, heldEdges, reheldEdges, rfl⟩, ?_⟩
    rw [List.foldl_append, List.foldl_append, foldl_placeNode_foldl_addEdge]

/-- Two documents that share an address and an edge, taken over by a function that has both. -/
theorem addDocument_concatenated_shared :
    let node (address : Int) (mnemonic : String) : Json :=
      .object [("address", .integer address), ("instructions", .array [
        .object [("mnemonic", .string mnemonic), ("operands", .array [])]])]
    let edge (source destination : Int) : Json :=
      .object [("source", .integer source), ("destination", .integer destination)]
    let document (nodes edges : List Json) : Json :=
      .object [("edges", .array edges), ("nodes", .array nodes)]
    let function := Flowgraph.build [.node 7, .edge (7, 9), .block 7 []]
    let nodes := [node 8 "a", node 7 "b"]
    let renodes := [node 5 "c", node 8 "d"]
    let edges := [edge 9 8]
    let reedges := [edge 8 7, edge 7 9]
    Lists (document nodes edges) nodes edges ∧ Lists (document renodes reedges) renodes reedges ∧
    Lists (document (nodes ++ renodes) (edges ++ reedges)) (nodes ++ renodes) (edges ++ reedges) ∧
    ∃ after, diagnosed Diagnosis.maxNesting (function.addDocument
      (document (nodes ++ renodes) (edges ++ reedges))) = .ok (after, none) ∧
    after.nodes = [7, 8, 5] ∧ after.edges = [(7, 9), (9, 8), (8, 7)] ∧
    after.mnemonics = ["c", "b", "d"] := by
  intro node edge document function nodes renodes edges reedges
  have one : Lists (document nodes edges) nodes edges := ⟨rfl, rfl⟩
  have two : Lists (document renodes reedges) renodes reedges := ⟨rfl, rfl⟩
  have both : Lists (document (nodes ++ renodes) (edges ++ reedges)) (nodes ++ renodes)
      (edges ++ reedges) := ⟨rfl, rfl⟩
  -- Both documents are accepted by evaluation, and the whole is accepted by the theorem.
  have first : diagnosed Diagnosis.maxNesting (function.addDocument (document nodes edges)) =
      .ok ((function.addDocument (document nodes edges)).1, none) := rfl
  have second : diagnosed Diagnosis.maxNesting ((function.addDocument
      (document nodes edges)).1.addDocument (document renodes reedges)) =
      .ok (((function.addDocument (document nodes edges)).1.addDocument
        (document renodes reedges)).1, none) := rfl
  have accepted := (addDocument_concatenated Diagnosis.maxNesting function function one two both).2
  have whole := (accepted _).mpr ⟨_, first, second⟩
  -- What was taken over is computed on the whole document.
  refine ⟨one, two, both, _, whole, ?_, ?_, ?_⟩
  · decide +kernel
  · decide +kernel
  · decide +kernel

end Document

end Flowprint
