import Flowprint.Proofs.Graph.Levels
import Mathlib.Combinatorics.SimpleGraph.Metric
import Mathlib.Data.Set.Card

/-! A neighbourhood holds the nodes that are closest to its center. -/

namespace Flowprint.Graph

/-- The nodes with the edges between them, whichever way these lead. -/
def skeleton (graph : Graph) : SimpleGraph Address where
  Adj first second := first ≠ second ∧ first ∈ graph.nodes ∧ second ∈ graph.nodes ∧
    ((first, second) ∈ graph.edges ∨ (second, first) ∈ graph.edges)
  symm := ⟨fun _ _ ⟨different, first, second, joined⟩ =>
    ⟨different.symm, second, first, joined.symm⟩⟩
  loopless := ⟨fun _ loop => loop.1 rfl⟩

/-- The hops of a shortest way from one node to another, which may pass through nodes only. -/
noncomputable def hopsBetween (graph : Graph) (first second : Address) : ℕ∞ :=
  graph.skeleton.edist first second

/-- The nodes within some hops of a center. -/
def ball (graph : Graph) (center : Address) (hops : Nat) : Set Address :=
  { address | address ∈ graph.nodes ∧ graph.hopsBetween center address ≤ hops }

variable {graph : Graph} {center address other : Address}

/-- A neighbour of a node is at most one hop away. -/
theorem hopsBetween_neighbour (member : address ∈ graph.nodes)
    (neighbour : other ∈ graph.neighbours address) : graph.hopsBetween address other ≤ 1 := by
  -- A node that is joined to itself is its own neighbour.
  obtain ⟨joined, target⟩ := mem_neighbours.mp neighbour
  rw [hopsBetween, SimpleGraph.edist_le_one_iff_adj_or_eq]
  by_cases same : address = other
  · exact Or.inr same
  · exact Or.inl ⟨same, member, target, joined⟩

/-- The neighbours of what is in the levels are in the levels one hop further. -/
theorem neighbour_mem_levels {hops : Nat} (found : address ∈ graph.levels center hops)
    (neighbour : other ∈ graph.neighbours address) : other ∈ graph.levels center (hops + 1) := by
  -- Either the address stands in the last level, or its neighbours were found earlier.
  have last : ∀ hops, address ∈ graph.level center hops →
      other ∈ graph.levels center (hops + 1) := by
    intro hops inLevel
    rw [levels_succ, level_succ, nextLevel_eq, List.mem_append, Sweep.mem_unseen,
      List.mem_flatMap]
    by_cases earlier : other ∈ graph.levels center hops
    · exact Or.inl earlier
    · exact Or.inr ⟨⟨address, inLevel, neighbour⟩, earlier⟩
  -- What stood in an earlier level has its neighbours in the levels up to there.
  induction hops with
  | zero => exact last 0 found
  | succ hops ih =>
    rw [levels_succ, List.mem_append] at found
    rcases found with earlier | inLevel
    · rw [levels_succ]
      exact List.mem_append_left _ (ih earlier)
    · exact last (hops + 1) inLevel

/-- The levels up to some number of hops hold exactly the addresses within these hops. -/
theorem mem_levels_iff (member : center ∈ graph.nodes) {hops : Nat} :
    address ∈ graph.levels center hops ↔ graph.hopsBetween center address ≤ hops := by
  -- The induction is on the hops, for all addresses at once.
  induction hops generalizing address with
  | zero => simp [hopsBetween, SimpleGraph.edist_eq_zero_iff, eq_comm (a := address)]
  | succ hops ih =>
    constructor
    · intro found
      rw [levels_succ, level_succ, nextLevel_eq, List.mem_append] at found
      rcases found with earlier | late
      · exact (ih.mp earlier).trans (by exact_mod_cast Nat.le_succ hops)
      · -- The way to a neighbour leads through a node of the level before.
        obtain ⟨before, inLevel, neighbour⟩ := List.mem_flatMap.mp (Sweep.mem_unseen.mp late).1
        have found : before ∈ graph.levels center hops := by
          cases hops with
          | zero => exact inLevel
          | succ hops => exact List.mem_append_right _ inLevel
        calc graph.hopsBetween center address
            ≤ graph.hopsBetween center before + graph.hopsBetween before address :=
              SimpleGraph.edist_triangle
          _ ≤ hops + 1 := add_le_add (ih.mp found)
              (hopsBetween_neighbour (mem_nodes_of_mem_levels member found) neighbour)
          _ = ((hops + 1 : ℕ) : ℕ∞) := by push_cast; rfl
    · intro near
      -- The last hop of a shortest way starts at a node that is in the levels already.
      rw [hopsBetween, SimpleGraph.edist_comm] at near
      have reached : graph.skeleton.edist address center ≠ ⊤ :=
        ne_top_of_le_ne_top (ENat.natCast_ne_top _) near
      obtain ⟨way, shortest⟩ := SimpleGraph.exists_walk_of_edist_ne_top reached
      -- The way has a first hop, or the address is the center.
      rw [← shortest] at near
      cases way with
      | nil => exact (levels_extend (Nat.zero_le _)).subset (List.mem_singleton.mpr rfl)
      | @cons _ before _ joined rest =>
        -- From the node after the first hop on, the way is one hop shorter.
        have shorter : graph.hopsBetween center before ≤ hops := by
          rw [hopsBetween, SimpleGraph.edist_comm]
          refine (SimpleGraph.edist_le rest).trans ?_
          rw [SimpleGraph.Walk.length_cons] at near
          exact_mod_cast Nat.le_of_succ_le_succ (by exact_mod_cast near)
        refine neighbour_mem_levels (ih.mpr shorter) (mem_neighbours.mpr ?_)
        exact ⟨joined.2.2.2.symm, joined.2.1⟩

/-- The nodes of a level are so many hops away and no fewer. -/
theorem lt_hopsBetween_of_mem_level (member : center ∈ graph.nodes) {hops : Nat}
    (found : address ∈ graph.level center (hops + 1)) :
    (hops : ℕ∞) < graph.hopsBetween center address := by
  -- A level holds nothing of the levels before it.
  rw [level_succ, nextLevel_eq, Sweep.mem_unseen, mem_levels_iff member] at found
  exact not_le.mp found.2

/-- The hops do not decrease along the levels. -/
theorem pairwise_levels (member : center ∈ graph.nodes) (hops : Nat) :
    (graph.levels center hops).Pairwise fun near far =>
      graph.hopsBetween center near ≤ graph.hopsBetween center far := by
  -- A level holds nodes that are all equally far, and it comes behind the nearer ones.
  induction hops with
  | zero => exact List.pairwise_singleton _ _
  | succ hops ih =>
    -- Everything up to the new level is within its hops, and all of it is beyond those before.
    have beyond : ∀ near ∈ graph.levels center (hops + 1),
        ∀ far ∈ graph.level center (hops + 1),
          graph.hopsBetween center near ≤ graph.hopsBetween center far := by
      intro near found far late
      calc graph.hopsBetween center near
          ≤ ((hops + 1 : ℕ) : ℕ∞) := (mem_levels_iff member).mp found
        _ = hops + 1 := by push_cast; rfl
        _ ≤ graph.hopsBetween center far :=
            Order.add_one_le_of_lt (lt_hopsBetween_of_mem_level member late)
    rw [levels_succ] at beyond ⊢
    -- Within the new level and across the seam to it, the hops do not decrease.
    refine List.pairwise_append.mpr ⟨ih, ?_, ?_⟩
    · exact List.pairwise_of_forall_mem_list fun near found far late =>
        beyond near (List.mem_append_right _ found) far late
    · exact fun near found far late => beyond near (List.mem_append_left _ found) far late

/-- The ball around a node is what the levels hold. -/
theorem mem_ball_iff (member : center ∈ graph.nodes) {hops : Nat} :
    address ∈ graph.ball center hops ↔ address ∈ graph.levels center hops := by
  -- What the levels hold are nodes anyway.
  refine ⟨fun inside => (mem_levels_iff member).mpr inside.2, fun found => ?_⟩
  exact ⟨mem_nodes_of_mem_levels member found, (mem_levels_iff member).mp found⟩

/-- The ball around a node has as many elements as the levels. -/
theorem encard_ball (member : center ∈ graph.nodes) (hops : Nat) :
    (graph.ball center hops).encard = (graph.levels center hops).length := by
  -- The levels list the ball without repetition.
  have same : graph.ball center hops = (graph.levels center hops).toFinset := by
    ext address
    simp [mem_ball_iff member]
  rw [same, Set.encard_coe_eq_coe_finsetCard,
    List.toFinset_card_of_nodup (nodup_levels graph center hops)]

/--
A neighbourhood holds the nodes closest to its center, as many as there is room for.

They stand in the order of their distance, and what is left out is no closer than any of them.
-/
theorem neighbourhood_closest (member : center ∈ graph.nodes) (distance maxSize : Int) :
    let kept := (graph.neighbourhood center distance maxSize).nodes
    let near := graph.ball center distance.toNat
    kept.Nodup ∧
    (∀ address ∈ kept, address ∈ near) ∧
    (kept.length : ℕ∞) = min (maxSize.toNat : ℕ∞) near.encard ∧
    (kept.Pairwise fun first second =>
      graph.hopsBetween center first ≤ graph.hopsBetween center second) ∧
    (∀ first ∈ kept, ∀ second ∈ near, second ∉ kept →
      graph.hopsBetween center first ≤ graph.hopsBetween center second) ∧
    (graph.nodes.length ≤ maxSize → ∀ address, address ∈ kept ↔ address ∈ near) := by
  intro kept near
  -- What is kept is the front part of the levels, which list the ball in order of distance.
  have prefixed : kept = (graph.levels center distance.toNat).take maxSize.toNat := by
    rw [← surroundings_eq member]
    exact neighbourhood_nodes graph center distance maxSize
  have distinct := nodup_levels graph center distance.toNat
  have ordered := pairwise_levels member distance.toNat
  rw [prefixed]
  refine ⟨distinct.sublist (List.take_sublist _ _), ?_, ?_, ordered.sublist (List.take_sublist _ _),
    ?_, ?_⟩
  · exact fun address found => (mem_ball_iff member).mpr (List.mem_of_mem_take found)
  · rw [encard_ball member, List.length_take]
    exact_mod_cast rfl
  · -- What is left out stands behind everything that is kept.
    intro first found second inside outside
    rw [← List.take_append_drop maxSize.toNat (graph.levels center distance.toNat)] at ordered
    have dropped : second ∈ (graph.levels center distance.toNat).drop maxSize.toNat := by
      have listed := (mem_ball_iff member).mp inside
      rw [← List.take_append_drop maxSize.toNat (graph.levels center distance.toNat)] at listed
      exact (List.mem_append.mp listed).resolve_left outside
    exact (List.pairwise_append.mp ordered).2.2 first found second dropped
  · -- The levels list nodes without repetition, so they are no longer than the nodes.
    intro room address
    have short : (graph.levels center distance.toNat).length ≤ graph.nodes.length :=
      (List.subperm_of_subset distinct
        fun _ found => mem_nodes_of_mem_levels member found).length_le
    rw [List.take_of_length_le (by omega), mem_ball_iff member]

/-- On a way of three nodes with room for two, the far end is left out. -/
theorem neighbourhood_closest_way :
    let graph : Graph := ⟨[1, 2, 3], [(2, 1), (2, 3), (3, 9)], by decide, by decide⟩
    1 ∈ graph.nodes ∧ (graph.neighbourhood 1 2 2).nodes = [1, 2] ∧
    2 ∈ graph.ball 1 2 ∧ (2 : ℕ∞) = min 2 (graph.ball 1 2).encard ∧
    graph.hopsBetween 1 1 ≤ graph.hopsBetween 1 2 ∧
    (3 ∈ graph.ball 1 2 → graph.hopsBetween 1 2 ≤ graph.hopsBetween 1 3) := by
  intro graph
  -- The way leads against the first edge, and the third edge ends at no node.
  have member : 1 ∈ graph.nodes := by decide
  have kept : (graph.neighbourhood 1 2 2).nodes = [1, 2] := by decide +kernel
  obtain ⟨-, near, count, ordered, farther, -⟩ := neighbourhood_closest member 2 2
  rw [kept] at near count ordered farther
  refine ⟨member, kept, near 2 (by simp), count, ?_, ?_⟩
  · exact List.rel_of_pairwise_cons ordered (by simp)
  · intro reached
    exact farther 2 (by simp) 3 reached (by simp)

end Flowprint.Graph
