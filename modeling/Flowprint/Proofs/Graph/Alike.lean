import Flowprint.Proofs.Graph.Distance

/-! Neighbourhoods depend on which nodes and edges there are, and not on when they were added. -/

namespace Flowprint.Graph

/-- Two graphs have the same nodes, and the same edges between these, in whatever order. -/
structure Alike (first second : Graph) : Prop where
  /-- Either graph has the nodes of the other. -/
  nodes : ∀ address, address ∈ first.nodes ↔ address ∈ second.nodes
  /-- An edge between two nodes is in both graphs or in neither, and other edges do not count. -/
  edges : ∀ source ∈ first.nodes, ∀ target ∈ first.nodes,
    (source, target) ∈ first.edges ↔ (source, target) ∈ second.edges

variable {first second : Graph}

/-- A node has the same neighbours in both graphs, in the same order. -/
theorem Alike.neighbours (alike : Alike first second) {address : Address}
    (member : address ∈ first.nodes) : first.neighbours address = second.neighbours address := by
  -- Children and parents come in ascending order, so it matters only which nodes are among them.
  have ascending : ∀ {ends more : List Address}, ends.Pairwise (· < ·) → more.Pairwise (· < ·) →
      (∀ other ∈ first.nodes, other ∈ ends ↔ other ∈ more) →
      ends.filter first.nodes.contains = more.filter second.nodes.contains := by
    intro ends more low high same
    refine List.SortedLT.eq_of_mem_iff (low.filter _).sortedLT (high.filter _).sortedLT ?_
    intro other
    simp only [List.mem_filter, List.contains_iff_mem, ← alike.nodes]
    exact and_congr_left (same other)
  have children : (first.children address).filter first.nodes.contains =
      (second.children address).filter second.nodes.contains := by
    refine ascending (Ascending.pairwise_sort _) (Ascending.pairwise_sort _) ?_
    -- An end that is no node plays no part, so only edges between nodes are compared.
    intro other known
    exact mem_children.trans ((alike.edges address member other known).trans mem_children.symm)
  have parents : (first.parents address).filter first.nodes.contains =
      (second.parents address).filter second.nodes.contains := by
    refine ascending (Ascending.pairwise_sort _) (Ascending.pairwise_sort _) ?_
    intro other known
    exact mem_parents.trans ((alike.edges other known address member).trans mem_parents.symm)
  -- Known children and then known parents make up the neighbours.
  rw [Graph.neighbours, Graph.neighbours, List.filter_append, List.filter_append, children,
    parents]

/-- An address has the same surroundings in both graphs. -/
theorem Alike.surroundings (alike : Alike first second) (center : Address)
    (distance maxSize : Int) :
    first.surroundings center distance maxSize = second.surroundings center distance maxSize := by
  by_cases member : center ∈ first.nodes
  · -- A level holds nodes, and nodes have the same neighbours.
    have levels : first.levels center distance.toNat = second.levels center distance.toNat :=
      (level_congr fun near _ address found => alike.neighbours
        (mem_nodes_of_mem_levels member (level_subset_levels first center near found))).2
    rw [surroundings_eq member, surroundings_eq ((alike.nodes center).mp member), levels]
  · rw [Graph.surroundings, Graph.surroundings, if_neg member,
      if_neg (mt (alike.nodes center).mpr member)]

/-- An address has the same neighbourhood in both graphs, up to the order of its edges. -/
theorem Alike.neighbourhood (alike : Alike first second) (center : Address)
    (distance maxSize : Int) :
    (first.neighbourhood center distance maxSize).nodes =
      (second.neighbourhood center distance maxSize).nodes ∧
    (first.neighbourhood center distance maxSize).edges.Perm
      (second.neighbourhood center distance maxSize).edges := by
  -- The surroundings are found from the neighbours alone.
  have same := alike.surroundings center distance maxSize
  refine ⟨?_, ?_⟩
  · rw [neighbourhood_nodes, neighbourhood_nodes, same]
  · -- Edges do not repeat, so it is enough that the same ones are kept.
    refine (List.perm_ext_iff_of_nodup (first.neighbourhood center distance maxSize).edges_distinct
      (second.neighbourhood center distance maxSize).edges_distinct).mpr ?_
    intro edge
    simp only [Graph.neighbourhood, induced, List.mem_filter, List.contains_eq_mem,
      Bool.and_eq_true, decide_eq_true_eq, ← same]
    apply and_congr_left
    intro kept
    -- An edge of the neighbourhood joins two nodes, and these edges are the same.
    exact alike.edges edge.1 (surroundings_subset first center _ _ kept.1)
      edge.2 (surroundings_subset first center _ _ kept.2)

/-- A graph has a node exactly if the node has a neighbourhood of its own. -/
theorem mem_neighbourhood_self {graph : Graph} {address : Address} :
    address ∈ (graph.neighbourhood address 0 1).nodes ↔ address ∈ graph.nodes := by
  -- No hops leave the address itself, and a kept address is a node.
  constructor
  · rw [neighbourhood_nodes]
    exact fun kept => surroundings_subset graph address 0 1 kept
  · exact fun member => List.mem_of_mem_head? (head?_neighbourhood member 0 Int.one_pos)

/-- With room for all nodes, an edge between nodes is kept in the neighbourhood of its start. -/
theorem mem_edges_neighbourhood {graph : Graph} (edge : Edge) {room : Nat}
    (start : edge.1 ∈ graph.nodes) (stop : edge.2 ∈ graph.nodes)
    (enough : graph.nodes.length ≤ room) :
    edge ∈ (graph.neighbourhood edge.1 1 room).edges ↔ edge ∈ graph.edges := by
  constructor
  · exact fun kept => List.mem_of_mem_filter kept
  · intro member
    -- There are no more nodes within one hop than nodes, so the room suffices.
    have short : (graph.levels edge.1 1).length ≤ room :=
      (List.subperm_of_subset (nodup_levels graph edge.1 1)
        fun _ found => mem_nodes_of_mem_levels start found).length_le.trans enough
    have whole : graph.surroundings edge.1 1 room = graph.levels edge.1 1 := by
      rw [surroundings_eq start]
      exact List.take_of_length_le short
    -- The start is at no hops, and the end is its neighbour.
    have first : edge.1 ∈ graph.levels edge.1 1 := (levels_extend (Nat.zero_le 1)).subset (by simp)
    have neighbour : edge.2 ∈ graph.neighbours edge.1 := mem_neighbours.mpr ⟨Or.inl member, stop⟩
    have second : edge.2 ∈ graph.levels edge.1 1 :=
      neighbour_mem_levels (level_subset_levels graph edge.1 0 (by simp)) neighbour
    simp [neighbourhood, induced, whole, member, first, second]

/--
All neighbourhoods of two graphs are the same exactly when the graphs are alike.

The nodes of a neighbourhood are then the same in the same order, and the edges are the same.
So nothing shows of the order in which a graph was built, or of edges that end at no node.
-/
theorem alike_iff_neighbourhood (first second : Graph) :
    Alike first second ↔ ∀ center distance maxSize,
      (first.neighbourhood center distance maxSize).nodes =
        (second.neighbourhood center distance maxSize).nodes ∧
      ∀ edge, edge ∈ (first.neighbourhood center distance maxSize).edges ↔
        edge ∈ (second.neighbourhood center distance maxSize).edges := by
  constructor
  · intro alike center distance maxSize
    obtain ⟨nodes, edges⟩ := alike.neighbourhood center distance maxSize
    exact ⟨nodes, fun _ => edges.mem_iff⟩
  · intro same
    have nodes : ∀ address, address ∈ first.nodes ↔ address ∈ second.nodes := by
      -- Being a node is the same as having a neighbourhood, which is the same in both graphs.
      intro address
      rw [← mem_neighbourhood_self, (same address 0 1).1, mem_neighbourhood_self]
    refine ⟨nodes, ?_⟩
    -- With room for the nodes of both graphs, no edge between nodes is cut off.
    intro source start target stop
    have room := Nat.le_add_right first.nodes.length second.nodes.length
    have room' := Nat.le_add_left second.nodes.length first.nodes.length
    rw [← mem_edges_neighbourhood (source, target) start stop room, (same source 1 _).2,
      mem_edges_neighbourhood (source, target) ((nodes source).mp start) ((nodes target).mp stop)
        room']

end Flowprint.Graph
