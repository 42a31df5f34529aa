import Flowprint.Proofs.Graph.Levels
import Mathlib.Order.Hom.Basic

/-! Where all addresses are moved and their order stays, neighbourhoods are moved as they are. -/

namespace Flowprint

section Moved

variable {α β : Type}

/-- Moving elements in their order moves them in their sorted list. -/
theorem Ascending.sort_map [LinearOrder α] [LinearOrder β] (move : α ↪o β) (items : List α) :
    Ascending.sort (items.map move) = (Ascending.sort items).map move := by
  -- Both lists are in ascending order, so their elements decide.
  refine List.SortedLT.eq_of_mem_iff (Ascending.pairwise_sort _).sortedLT
    (List.Pairwise.sortedLT ?_) ?_
  · refine (Ascending.pairwise_sort items).map move ?_
    intro first second below
    exact move.lt_iff_lt.mpr below
  · simp

/-- Moving elements apart moves their first occurrences. -/
theorem Distinct.insert_map [DecidableEq α] [DecidableEq β] {move : α → β}
    (apart : move.Injective) (items : List α) (item : α) :
    Distinct.insert (items.map move) (move item) = (Distinct.insert items item).map move := by
  -- The moved element is there exactly if the element was there.
  by_cases present : item ∈ items
  · simp [Distinct.insert, present, apart.eq_iff]
  · simp [Distinct.insert, present, apart.eq_iff]

/-- What is moved has been seen exactly when it had been seen before the move. -/
theorem Sweep.unseen_map {move : Address → Address} (apart : move.Injective)
    (seen items : List Address) :
    unseen (seen.map move) (items.map move) = (unseen seen items).map move := by
  -- The induction is on what is left to look at, whatever has been seen.
  induction items generalizing seen with
  | nil => rfl
  | cons head rest ih =>
    have grown := ih (head :: seen)
    rw [List.map_cons] at grown
    by_cases known : head ∈ seen
    · simp [unseen, known, apart.eq_iff, ih]
    · simp [unseen, known, apart.eq_iff, grown]

end Moved

namespace Graph

/-- The same graph with every address moved, in such a way that their order stays. -/
def relocate (move : Address ↪o Address) (graph : Graph) : Graph where
  nodes := graph.nodes.map move
  edges := graph.edges.map (Prod.map move move)
  -- Addresses that differ still differ after the move.
  nodes_distinct := graph.nodes_distinct.map move.injective
  edges_distinct := graph.edges_distinct.map (move.injective.prodMap move.injective)

variable (move : Address ↪o Address) (graph : Graph)

/-- An address is a node after the move exactly when it was one. -/
@[simp] theorem mem_nodes_relocate {address : Address} :
    move address ∈ (graph.relocate move).nodes ↔ address ∈ graph.nodes :=
  -- No two addresses move to the same one.
  List.mem_map_of_injective move.injective

/-- The ends of edges that started at an address start at where it was moved. -/
theorem children_relocate (address : Address) :
    (graph.relocate move).children (move address) = (graph.children address).map move := by
  -- Sorting commutes with a move that keeps the order, and so does the choice of edges.
  rw [children, children, ← Ascending.sort_map, relocate]
  simp [List.filter_map, Function.comp_def]

/-- The starts of edges that ended at an address end at where it was moved. -/
theorem parents_relocate (address : Address) :
    (graph.relocate move).parents (move address) = (graph.parents address).map move := by
  -- Parents are chosen and sorted like children.
  rw [parents, parents, ← Ascending.sort_map, relocate]
  simp [List.filter_map, Function.comp_def]

/-- The neighbours of a moved address are its moved neighbours. -/
theorem neighbours_relocate (address : Address) :
    (graph.relocate move).neighbours (move address) = (graph.neighbours address).map move := by
  -- Children and parents are moved, so what is left is to see which of them are nodes.
  rw [neighbours, neighbours, children_relocate, parents_relocate, ← List.map_append,
    List.filter_map]
  congr 1
  apply List.filter_congr
  intro other _
  simp [relocate]

/-- Every level is moved. -/
theorem level_relocate (center : Address) (hops : Nat) :
    (graph.relocate move).level (move center) hops = (graph.level center hops).map move ∧
    (graph.relocate move).levels (move center) hops = (graph.levels center hops).map move := by
  -- The center alone is the first level.
  induction hops with
  | zero => simp
  | succ hops ih =>
    obtain ⟨level, levels⟩ := ih
    -- A level is found from the one before it, so the moved one is found from the moved one.
    have next : (graph.relocate move).level (move center) (hops + 1) =
        (graph.level center (hops + 1)).map move := by
      have around : ((graph.level center hops).map move).flatMap (graph.relocate move).neighbours =
          ((graph.level center hops).flatMap graph.neighbours).map move := by
        rw [List.flatMap_map, List.map_flatMap]
        apply List.flatMap_congr
        intro address _
        exact neighbours_relocate move graph address
      rw [level_succ, level_succ, nextLevel_eq, nextLevel_eq, level, levels, around,
        Sweep.unseen_map move.injective]
    refine ⟨next, ?_⟩
    rw [levels_succ, levels_succ, List.map_append, levels, next]

/-- Surroundings are moved as they are. -/
theorem surroundings_relocate (center : Address) (distance maxSize : Int) :
    (graph.relocate move).surroundings (move center) distance maxSize =
      (graph.surroundings center distance maxSize).map move := by
  -- The center is a node before the move exactly if it is one after it.
  by_cases member : center ∈ graph.nodes
  · rw [surroundings_eq member, surroundings_eq ((mem_nodes_relocate move graph).mpr member),
      (level_relocate move graph center _).2, List.map_take]
  · rw [surroundings, surroundings, if_neg member,
      if_neg (mt (mem_nodes_relocate move graph).mp member), List.map_nil]

/-- What is left of a moved graph on moved nodes is what was left of it, moved. -/
theorem induced_relocate {kept : List Address} (distinct : kept.Nodup) :
    (graph.relocate move).induced (kept.map move) = (graph.induced kept).relocate move := by
  -- Nodes do not repeat, before or after the move.
  refine Graph.ext ?_ ?_
  · change Distinct.ofList (kept.map move) = (Distinct.ofList kept).map move
    rw [Distinct.ofList_eq_self distinct, Distinct.ofList_eq_self (distinct.map move.injective)]
  · -- An edge is kept if both ends are, and these are moved with the nodes.
    simp [induced, relocate, List.filter_map, Function.comp_def]

/-- Neighbourhoods are moved as they are, and neither nodes nor edges change their places. -/
theorem neighbourhood_relocate (center : Address) (distance maxSize : Int) :
    (graph.relocate move).neighbourhood (move center) distance maxSize =
      (graph.neighbourhood center distance maxSize).relocate move := by
  -- The nodes of a neighbourhood are distinct, so they are read off as they stand.
  have distinct := neighbourhood_nodes graph center distance maxSize ▸
    (graph.neighbourhood center distance maxSize).nodes_distinct
  rw [neighbourhood, surroundings_relocate, induced_relocate move graph distinct, neighbourhood]

end Graph

end Flowprint
