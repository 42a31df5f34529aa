import Flowprint.Proofs.Graph.Distance
import Flowprint.Proofs.Graph.Nested

/-! Cutting out a neighbourhood leaves the ways from its center as short as they were. -/

namespace Flowprint.Graph

variable {graph : Graph} {center address : Address} {kept : List Address}

/-- What is cut out of a graph joins no nodes that were not joined before. -/
theorem skeleton_induced_le (distinct : kept.Nodup) (nodes : kept ⊆ graph.nodes) :
    (graph.induced kept).skeleton ≤ graph.skeleton := by
  -- The cut keeps these nodes, and of the edges it keeps some.
  have listed : (graph.induced kept).nodes = kept := Distinct.ofList_eq_self distinct
  have old : ∀ {edge}, edge ∈ (graph.induced kept).edges → edge ∈ graph.edges :=
    fun {_} member => List.mem_of_mem_filter member
  intro first second joined
  obtain ⟨different, start, stop, edge⟩ := joined
  rw [listed] at start stop
  -- Two nodes that it joins are nodes of the graph with the same edge.
  exact ⟨different, nodes start, nodes stop, edge.imp old old⟩

/--
A front part of the levels has the hops of the whole graph.

Where the front part ends does not matter, because it lists every level after the nearer ones.
-/
theorem hopsBetween_induced {distance : Nat} (member : center ∈ graph.nodes)
    (front : kept <+: graph.levels center distance) (inside : center ∈ kept)
    (found : address ∈ kept) :
    (graph.induced kept).hopsBetween center address = graph.hopsBetween center address := by
  have nodes : kept ⊆ graph.nodes := fun _ chosen =>
    mem_nodes_of_mem_levels member (front.subset chosen)
  have distinct : kept.Nodup := (nodup_levels graph center distance).sublist front.sublist
  have listed : (graph.induced kept).nodes = kept := Distinct.ofList_eq_self distinct
  -- The node is within the distance, so its hops are a number.
  obtain ⟨hops, reached⟩ := ENat.ne_top_iff_exists.mp
    (ne_top_of_le_ne_top (ENat.natCast_ne_top distance)
      ((mem_levels_iff member).mp (front.subset found)))
  refine le_antisymm ?_ ?_
  · -- A kept node that is in the levels is in what the cut leaves of them.
    have level : address ∈ (graph.induced kept).levels center hops := by
      rw [(level_induced front nodes inside hops).2, List.mem_filter, mem_levels_iff member]
      exact ⟨reached.ge, decide_eq_true found⟩
    rw [← reached]
    exact (mem_levels_iff (by rwa [listed])).mp level
  · exact SimpleGraph.edist_anti (skeleton_induced_le distinct nodes)

/--
From its center a neighbourhood reaches every node by its own edges, and as soon as the graph does.

This holds however much room there is, so it holds where the room ends in the middle of a level.
-/
theorem neighbourhood_isometric (member : center ∈ graph.nodes) (distance : Int) {maxSize : Int}
    (room : 1 ≤ maxSize) :
    let cut := graph.neighbourhood center distance maxSize
    center ∈ cut.nodes ∧
    ∀ address ∈ cut.nodes, cut.skeleton.Reachable center address ∧
      cut.hopsBetween center address = graph.hopsBetween center address := by
  intro cut
  -- The nodes of the cut are a front part of the levels.
  have nodes : cut.nodes = graph.surroundings center distance maxSize :=
    neighbourhood_nodes graph center distance maxSize
  have kept := surroundings_eq member distance maxSize
  have front : graph.surroundings center distance maxSize <+:
      graph.levels center distance.toNat := kept ▸ List.take_prefix _ _
  -- The center is the first of them.
  have first : center ∈ cut.nodes :=
    List.mem_of_mem_head? (head?_neighbourhood member distance room)
  refine ⟨first, ?_⟩
  intro address found
  rw [nodes] at first found
  have same : cut.hopsBetween center address = graph.hopsBetween center address :=
    -- A front part that holds the center keeps the hops of each of its nodes.
    hopsBetween_induced member front first found
  refine ⟨?_, same⟩
  -- What is kept is within the distance, and that is a number of hops.
  apply SimpleGraph.reachable_of_edist_ne_top
  have near := (mem_levels_iff member).mp (front.subset found)
  rw [← same] at near
  exact ne_top_of_le_ne_top (ENat.natCast_ne_top _) near

/-- A room of four ends the cut in the middle of the second level, and a far node stays as far. -/
theorem neighbourhood_isometric_cut :
    let graph : Graph :=
      ⟨[1, 2, 3, 4, 5], [(1, 2), (3, 1), (4, 2), (4, 5), (3, 5)], by decide, by decide⟩
    let cut := graph.neighbourhood 1 2 4
    1 ∈ graph.nodes ∧ (1 : Int) ≤ 4 ∧ cut.nodes = [1, 2, 3, 4] ∧
    cut.skeleton.Reachable 1 4 ∧ cut.hopsBetween 1 4 = graph.hopsBetween 1 4 := by
  intro graph cut
  -- Four of five nodes fit, so the cut ends within a level.
  have member : 1 ∈ graph.nodes := by decide
  have nodes : cut.nodes = [1, 2, 3, 4] := by decide +kernel
  -- The general statement is applied to the last node that is kept.
  obtain ⟨-, isometric⟩ := neighbourhood_isometric member 2 (show (1 : Int) ≤ 4 by decide)
  exact ⟨member, by decide, nodes, isometric 4 (nodes ▸ by decide)⟩

end Flowprint.Graph
