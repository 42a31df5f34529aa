import Flowprint.Address
import Flowprint.Ascending
import Flowprint.Distinct

/-! Directed graphs over addresses list their nodes and their edges in order of insertion. -/

namespace Flowprint

/-- An edge may join addresses that are no nodes, and such an edge is kept but never followed. -/
structure Graph where
  /-- The nodes, oldest first. -/
  nodes : List Address
  /-- The edges, oldest first. -/
  edges : List Edge
  /-- A node is listed once. -/
  nodes_distinct : nodes.Nodup
  /-- An edge is listed once. -/
  edges_distinct : edges.Nodup
  deriving DecidableEq

namespace Graph

/-- The graph that holds nothing. -/
def empty : Graph := ⟨[], [], List.nodup_nil, List.nodup_nil⟩

/-- Two graphs with the same lists are the same graph. -/
@[ext] theorem ext {first second : Graph} (nodes : first.nodes = second.nodes)
    (edges : first.edges = second.edges) : first = second := by
  -- The other two fields are proofs.
  cases first; cases second; cases nodes; cases edges; rfl

/-- Adds a node unless it is there already. -/
def addNode (graph : Graph) (address : Address) : Graph :=
  { graph with
    nodes := Distinct.insert graph.nodes address
    nodes_distinct := Distinct.nodup_insert graph.nodes_distinct address }

/-- Adds an edge unless it is there already, whether or not its ends are nodes. -/
def addEdge (graph : Graph) (edge : Edge) : Graph :=
  { graph with
    edges := Distinct.insert graph.edges edge
    edges_distinct := Distinct.nodup_insert graph.edges_distinct edge }

/-- How many nodes there are. -/
def size (graph : Graph) : Nat := graph.nodes.length

/-- The addresses to which an edge leads from here, in ascending order. -/
def children (graph : Graph) (address : Address) : List Address :=
  -- The ends need not be nodes, and neither does the address itself.
  Ascending.sort ((graph.edges.filter (·.1 = address)).map (·.2))

/-- The addresses from which an edge leads here, in ascending order. -/
def parents (graph : Graph) (address : Address) : List Address :=
  Ascending.sort ((graph.edges.filter (·.2 = address)).map (·.1))

/-- The children are the ends of the edges that start here. -/
@[simp] theorem mem_children {graph : Graph} {address child : Address} :
    child ∈ graph.children address ↔ (address, child) ∈ graph.edges := by
  -- Sorting keeps the ends of the edges that were selected by their start.
  simp only [children, Ascending.mem_sort, List.mem_map, List.mem_filter, decide_eq_true_eq]
  constructor
  · rintro ⟨edge, ⟨member, rfl⟩, rfl⟩
    exact member
  · intro member
    exact ⟨(address, child), ⟨member, rfl⟩, rfl⟩

/-- The parents are the starts of the edges that end here. -/
@[simp] theorem mem_parents {graph : Graph} {address parent : Address} :
    parent ∈ graph.parents address ↔ (parent, address) ∈ graph.edges := by
  -- Sorting keeps the starts of the edges that were selected by their end.
  simp only [parents, Ascending.mem_sort, List.mem_map, List.mem_filter, decide_eq_true_eq]
  constructor
  · rintro ⟨edge, ⟨member, rfl⟩, rfl⟩
    exact member
  · intro member
    exact ⟨(parent, address), ⟨member, rfl⟩, rfl⟩

/-- The nodes one hop away: children before parents, each in ascending order. -/
def neighbours (graph : Graph) (address : Address) : List Address :=
  -- An end that is no node is not followed, and a node on both sides is listed twice.
  (graph.children address ++ graph.parents address).filter graph.nodes.contains

/-- A neighbour is a node that an edge joins to this address in either direction. -/
@[simp] theorem mem_neighbours {graph : Graph} {address other : Address} :
    other ∈ graph.neighbours address ↔
      ((address, other) ∈ graph.edges ∨ (other, address) ∈ graph.edges) ∧ other ∈ graph.nodes := by
  -- Children and parents are listed together, and only nodes pass.
  simp only [neighbours, List.mem_filter, List.mem_append, mem_children, mem_parents,
    List.contains_iff_mem]

/-- What is left of a graph on the listed nodes: they, and every edge between two of them. -/
def induced (graph : Graph) (kept : List Address) : Graph where
  -- The nodes stand in the order of the list, and the edges in the order of the graph.
  nodes := Distinct.ofList kept
  edges := graph.edges.filter fun edge => kept.contains edge.1 && kept.contains edge.2
  nodes_distinct := Distinct.nodup_ofList kept
  edges_distinct := graph.edges_distinct.filter _

end Graph

end Flowprint
