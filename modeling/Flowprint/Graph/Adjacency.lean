import Flowprint.Graph.Basic
import Mathlib.Logic.Function.Basic

/-!
The children and the parents of every address can be kept next to the edges.

A new edge is then registered at both of its ends, and nothing has to be searched for later.
-/

namespace Flowprint

/-- Edges, and what they join to each address. -/
structure Adjacency where
  /-- The edges, oldest first. -/
  edges : List Edge
  /-- The ends of the edges that start at an address, as they were registered. -/
  children : Address → List Address
  /-- The starts of the edges that end at an address, as they were registered. -/
  parents : Address → List Address

namespace Adjacency

/-- No edges, and nothing joined to any address. -/
def empty : Adjacency := ⟨[], fun _ => [], fun _ => []⟩

/-- Adds an edge and registers each of its ends at the other, unless the edge is there already. -/
def addEdge (adjacency : Adjacency) (edge : Edge) : Adjacency :=
  -- Whatever is registered already need not be looked at again.
  if edge ∈ adjacency.edges then adjacency
  else
    { edges := adjacency.edges ++ [edge]
      children := Function.update adjacency.children edge.1
        (Distinct.insert (adjacency.children edge.1) edge.2)
      parents := Function.update adjacency.parents edge.2
        (Distinct.insert (adjacency.parents edge.2) edge.1) }

/-- Edges that are added one after another. -/
def ofEdges (edges : List Edge) : Adjacency := edges.foldl addEdge empty

/-- The edges are those of a graph, and everything that they join is registered. -/
structure Registers (adjacency : Adjacency) (graph : Graph) : Prop where
  /-- The edges stand in the order of the graph. -/
  edges : adjacency.edges = graph.edges
  /-- The children are the ends of the edges that start here. -/
  children : ∀ address child,
    child ∈ adjacency.children address ↔ (address, child) ∈ graph.edges
  /-- The parents are the starts of the edges that end here. -/
  parents : ∀ address parent,
    parent ∈ adjacency.parents address ↔ (parent, address) ∈ graph.edges

variable {adjacency : Adjacency} {graph : Graph}

/-- Nothing is registered as long as there are no edges. -/
theorem registers_empty : Registers empty .empty := by
  -- Nothing is joined from either end.
  refine ⟨rfl, ?_, ?_⟩
  · simp [empty, Graph.empty]
  · simp [empty, Graph.empty]

/-- Registering at one address adds the one element there, and it adds nothing elsewhere. -/
theorem mem_update_insert (joined : Address → List Address) (here address other added : Address) :
    other ∈ Function.update joined here (Distinct.insert (joined here) added) address ↔
      other ∈ joined address ∨ (address = here ∧ other = added) := by
  -- Only the place that is updated can list more than before.
  by_cases same : address = here
  · subst same
    rw [Function.update_self, Distinct.mem_insert]
    simp
  · rw [Function.update_of_ne same]
    simp [same]

/-- Adding an edge on both sides leaves everything registered. -/
theorem Registers.addEdge (registers : Registers adjacency graph) (edge : Edge) :
    Registers (adjacency.addEdge edge) (graph.addEdge edge) := by
  have listed : (graph.addEdge edge).edges = Distinct.insert graph.edges edge := rfl
  by_cases present : edge ∈ adjacency.edges
  · -- An edge that is there already changes neither side.
    have known : edge ∈ graph.edges := registers.edges ▸ present
    have same : graph.addEdge edge = graph := by
      refine Graph.ext rfl ?_
      rw [listed, Distinct.insert, if_pos (by simpa using known)]
    rw [Adjacency.addEdge, if_pos present, same]
    exact registers
  · -- A fresh edge goes to the end of the edges and of one list on each side.
    have fresh : edge ∉ graph.edges := registers.edges ▸ present
    rw [Adjacency.addEdge, if_neg present]
    refine ⟨?_, ?_, ?_⟩
    · rw [listed, Distinct.insert_of_notMem fresh, registers.edges]
    · -- The destination is one more child of the source.
      intro address child
      rw [listed, Distinct.mem_insert, mem_update_insert, registers.children, Prod.ext_iff]
    · -- The source is one more parent of the destination.
      intro address parent
      rw [listed, Distinct.mem_insert, mem_update_insert, registers.parents, Prod.ext_iff,
        and_comm]

end Adjacency

end Flowprint
