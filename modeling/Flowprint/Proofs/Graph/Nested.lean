import Flowprint.Proofs.Graph.Levels
import Flowprint.Feature.Generator

/-! A neighbourhood inside a neighbourhood of the same center is the smaller one of the two. -/

namespace Flowprint

/-- Two front parts of a list without repetition share the shorter one of them. -/
theorem filter_take_mem_take {α : Type} [DecidableEq α] {items : List α} (distinct : items.Nodup)
    (first second : Nat) :
    (items.take first).filter (· ∈ items.take second) = items.take (min first second) := by
  -- The list is shortened until one of the two lengths is used up.
  induction items generalizing first second with
  | nil => simp
  | cons head rest ih =>
    obtain ⟨absent, tail⟩ := List.nodup_cons.mp distinct
    cases first with
    | zero => simp
    | succ first =>
      cases second with
      | zero => simp
      | succ second =>
        -- What stands behind the head differs from it, so only the rest decides.
        have later : (rest.take first).filter (· ∈ head :: rest.take second) =
            (rest.take first).filter (· ∈ rest.take second) := by
          apply List.filter_congr
          intro item member
          have different : item ≠ head := fun same => absent (same ▸ List.mem_of_mem_take member)
          simp [different]
        simpa [List.take_succ_cons, Nat.succ_min_succ, ih tail] using later

/-- What is left of a selection is selected from what is left. -/
theorem Sweep.unseen_filter {seen other : List Address} {select : Address → Bool}
    (same : ∀ address, select address → (address ∈ seen ↔ address ∈ other))
    (items : List Address) :
    unseen seen (items.filter select) = (unseen other items).filter select := by
  -- An address that is not selected may count as seen on one side only.
  induction items generalizing seen other with
  | nil => rfl
  | cons head rest ih =>
    -- An address that is selected counts as seen on both sides from now on.
    by_cases selected : select head
    · have grown : ∀ address, select address →
          (address ∈ head :: seen ↔ address ∈ head :: other) := by
        intro address chosen
        simp only [List.mem_cons, same address chosen]
      by_cases known : head ∈ other
      · simp [unseen, selected, known, (same head selected).mpr known, ih same]
      · simp [unseen, selected, known, mt (same head selected).mp known, ih grown]
    · -- One that is not selected is found on one side only, and there it is filtered out.
      have grown : ∀ address, select address →
          (address ∈ seen ↔ address ∈ head :: other) := by
        intro address chosen
        have different : address ≠ head := fun equal => selected (equal ▸ chosen)
        simp only [List.mem_cons, different, false_or, same address chosen]
      by_cases known : head ∈ other
      · simp [unseen, selected, known, ih same]
      · simp [unseen, selected, known, ih grown]

namespace Graph

variable {graph : Graph} {center address : Address} {kept : List Address} {hops : Nat}

/-- Cutting out twice is cutting out once, if the second cut lies inside the first one. -/
theorem induced_induced {inner : List Address} (within : inner ⊆ kept) :
    (graph.induced kept).induced inner = graph.induced inner := by
  refine Graph.ext rfl ?_
  -- An edge between inner nodes is an edge between kept ones.
  simp only [induced, List.filter_filter]
  apply List.filter_congr
  intro edge _
  simp only [List.contains_eq_mem]
  by_cases ends : edge.1 ∈ inner ∧ edge.2 ∈ inner
  · simp [ends, within ends.1, within ends.2]
  · grind

/-- A kept node has those of its neighbours that are kept, and they stand in the same order. -/
theorem neighbours_induced (distinct : kept.Nodup) (nodes : kept ⊆ graph.nodes)
    (member : address ∈ kept) :
    (graph.induced kept).neighbours address = (graph.neighbours address).filter (· ∈ kept) := by
  -- What is kept is listed as it stands, and edges are kept between these nodes.
  have listed : (graph.induced kept).nodes = kept := Distinct.ofList_eq_self distinct
  have edges : ∀ edge, edge ∈ (graph.induced kept).edges ↔
      edge ∈ graph.edges ∧ edge.1 ∈ kept ∧ edge.2 ∈ kept := by
    simp [induced]
  -- Either side is in ascending order, so its elements decide.
  have children : (graph.induced kept).children address =
      (graph.children address).filter (· ∈ kept) := by
    refine List.SortedLT.eq_of_mem_iff (Ascending.pairwise_sort _).sortedLT
      ((Ascending.pairwise_sort _).filter _).sortedLT ?_
    intro child
    simp [edges, member]
  have parents : (graph.induced kept).parents address =
      (graph.parents address).filter (· ∈ kept) := by
    refine List.SortedLT.eq_of_mem_iff (Ascending.pairwise_sort _).sortedLT
      ((Ascending.pairwise_sort _).filter _).sortedLT ?_
    intro parent
    simp [edges, member]
  rw [neighbours, neighbours, listed, children, parents, ← List.filter_append,
    List.filter_filter, List.filter_filter]
  -- A kept address is a node anyway.
  apply List.filter_congr
  intro other _
  by_cases known : other ∈ kept
  · simp [known, nodes known]
  · simp [known]

/--
What is kept of a sweep's front part has its own levels, and they are what is left of the levels.

The front part may end in the middle of a level. What lies behind that level is lost altogether,
so nothing is missed on the way to what is kept.
-/
theorem level_induced {distance : Nat} (front : kept <+: graph.levels center distance)
    (nodes : kept ⊆ graph.nodes) (inside : center ∈ kept) (hops : Nat) :
    (graph.induced kept).level center hops = (graph.level center hops).filter (· ∈ kept) ∧
    (graph.induced kept).levels center hops = (graph.levels center hops).filter (· ∈ kept) := by
  have distinct : kept.Nodup := (nodup_levels graph center distance).sublist front.sublist
  induction hops with
  | zero => simp [inside]
  | succ hops ih =>
    obtain ⟨level, levels⟩ := ih
    -- The search goes on from the kept part of a level, and only kept neighbours are found.
    have found : (graph.induced kept).level center (hops + 1) =
        (Sweep.unseen (graph.levels center hops)
          (((graph.level center hops).filter (· ∈ kept)).flatMap graph.neighbours)).filter
            (· ∈ kept) := by
      have known : ∀ address, decide (address ∈ kept) →
          (address ∈ (graph.levels center hops).filter (· ∈ kept) ↔
            address ∈ graph.levels center hops) := by
        intro address member
        simp [of_decide_eq_true member]
      rw [level_succ, nextLevel_eq, level, levels, ← Sweep.unseen_filter known,
        List.filter_flatMap]
      congr 1
      apply List.flatMap_congr
      intro address member
      exact neighbours_induced distinct nodes (by simpa using List.of_mem_filter member)
    have next : (graph.induced kept).level center (hops + 1) =
        (graph.level center (hops + 1)).filter (· ∈ kept) := by
      rw [found, level_succ, nextLevel_eq]
      -- Of two front parts of the levels one is a front part of the other.
      have comparable : kept <+: graph.levels center hops ∨ graph.levels center hops <+: kept :=
        List.prefix_or_prefix_of_prefix
          (front.trans (levels_extend (Nat.le_max_left distance hops)))
          (levels_extend (Nat.le_max_right distance hops))
      rcases comparable with ended | covered
      · -- Nothing beyond this level is kept, whatever leads to it.
        have nothing : ∀ items,
            (Sweep.unseen (graph.levels center hops) items).filter (· ∈ kept) = [] := by
          intro items
          refine List.filter_eq_nil_iff.mpr ?_
          intro address late
          have unknown := (Sweep.mem_unseen.mp late).2
          simpa using mt (ended.subset ·) unknown
        rw [nothing, nothing]
      · -- The whole level is kept, so everything that it leads to is found.
        have whole : (graph.level center hops).filter (· ∈ kept) = graph.level center hops := by
          refine List.filter_eq_self.mpr ?_
          intro address member
          exact decide_eq_true (covered.subset (level_subset_levels graph center hops member))
        rw [whole]
    refine ⟨next, ?_⟩
    rw [levels_succ, levels_succ, List.filter_append, levels, next]

/-- The front part of some levels has as much of other levels as both of them have. -/
theorem levels_filter_take (graph : Graph) (center : Address) (far near room : Nat) :
    (graph.levels center near).filter (· ∈ (graph.levels center far).take room) =
      (graph.levels center (min far near)).take room := by
  rcases Nat.le_total near far with closer | farther
  · -- The levels themselves are a front part of those that were cut off.
    have front := List.prefix_iff_eq_take.mp
      (levels_extend closer : graph.levels center near <+: graph.levels center far)
    rw [Nat.min_eq_right closer, front, filter_take_mem_take (nodup_levels graph center far),
      List.take_take, Nat.min_comm]
  · -- What was kept is a front part of the levels, which are taken as a whole.
    obtain ⟨count, front⟩ : ∃ count,
        graph.levels center far = (graph.levels center near).take count :=
      ⟨_, List.prefix_iff_eq_take.mp (levels_extend farther)⟩
    have all := filter_take_mem_take (nodup_levels graph center near)
      (graph.levels center near).length (min room count)
    rw [List.take_length, Nat.min_comm _ (min room count), ← List.take_eq_take_min] at all
    rw [Nat.min_eq_left farther, front, List.take_take, all]

/-- Fewer hops and less room leave a front part of the surroundings. -/
theorem prefix_surroundings (graph : Graph) (center : Address) {near far few many : Int}
    (hops : near ≤ far) (room : few ≤ many) :
    graph.surroundings center near few <+: graph.surroundings center far many := by
  -- The shorter levels are the beginning of the longer ones, and a take keeps that.
  by_cases member : center ∈ graph.nodes
  · rw [surroundings_eq member, surroundings_eq member]
    have front : graph.levels center near.toNat <+: graph.levels center far.toNat :=
      levels_extend (Int.toNat_le_toNat hops)
    calc (graph.levels center near.toNat).take few.toNat
        <+: (graph.levels center far.toNat).take few.toNat := front.take _
      _ <+: (graph.levels center far.toNat).take many.toNat :=
          List.take_prefix_take_left (Int.toNat_le_toNat room)
  · -- Without a node in the middle there are no surroundings.
    simp [surroundings, member]

/-- Surroundings that lack their own center are empty. -/
theorem surroundings_eq_nil {distance maxSize : Int}
    (absent : center ∉ graph.surroundings center distance maxSize) :
    graph.surroundings center distance maxSize = [] := by
  by_cases member : center ∈ graph.nodes
  · -- The center comes first in the levels, so only the room can be wanting.
    obtain ⟨beyond, split⟩ : [center] <+: graph.levels center distance.toNat :=
      levels_extend (Nat.zero_le _)
    rw [surroundings_eq member, ← split] at absent ⊢
    cases room : maxSize.toNat with
    | zero => rfl
    | succ room => simp [room] at absent
  · simp [surroundings, member]

/-- The surroundings inside a neighbourhood are those that fewer hops and less room would leave. -/
theorem surroundings_neighbourhood (graph : Graph) (center : Address) (far many near few : Int) :
    (graph.neighbourhood center far many).surroundings center near few =
      graph.surroundings center (min far near) (min many few) := by
  have nodes := neighbourhood_nodes graph center far many
  -- The center is kept exactly if there is room for it and it is a node.
  by_cases inside : center ∈ graph.surroundings center far many
  · have member : center ∈ graph.nodes := surroundings_subset graph center far many inside
    have kept := surroundings_eq member far many
    have front : graph.surroundings center far many <+: graph.levels center far.toNat :=
      kept ▸ List.take_prefix _ _
    -- What was kept is a front part of the levels, so its own levels are cut from them.
    have levels := (level_induced front (surroundings_subset graph center far many) inside
      near.toNat).2
    -- Negative distances and sizes count as zero on both sides.
    have hops : (min far near).toNat = min far.toNat near.toNat := by omega
    have room : (min many few).toNat = min few.toNat many.toNat := by omega
    calc (graph.neighbourhood center far many).surroundings center near few
        = ((graph.levels center near.toNat).filter
            (· ∈ graph.surroundings center far many)).take few.toNat := by
          rw [surroundings_eq (nodes ▸ inside), neighbourhood, levels]
      _ = ((graph.levels center (min far.toNat near.toNat)).take many.toNat).take few.toNat := by
          rw [kept, levels_filter_take]
      _ = graph.surroundings center (min far near) (min many few) := by
          rw [List.take_take, surroundings_eq member, hops, room]
  · -- Without the center nothing is kept at all, the first time or the second.
    have empty := surroundings_eq_nil inside
    have smaller := prefix_surroundings graph center (Int.min_le_left far near)
      (Int.min_le_left many few)
    rw [empty, List.prefix_nil] at smaller
    rw [smaller, surroundings, if_neg (nodes ▸ inside)]

/--
A neighbourhood inside a neighbourhood is the one with the fewer hops and the smaller size.

So cutting out again what was cut out changes nothing.
With fewer hops and less room the nodes are the first ones of the larger neighbourhood, and this
holds of the two features of a node.
-/
theorem neighbourhood_neighbourhood (graph : Graph) (center : Address) (far many near few : Int) :
    (graph.neighbourhood center far many).neighbourhood center near few =
      graph.neighbourhood center (min far near) (min many few) ∧
    (graph.neighbourhood center far many).neighbourhood center far many =
      graph.neighbourhood center far many ∧
    (near ≤ far → few ≤ many → (graph.neighbourhood center near few).nodes <+:
      (graph.neighbourhood center far many).nodes) ∧
    (Generator.serve graph (center, 2)).nodes <+: (Generator.serve graph (center, 3)).nodes := by
  have smaller : ∀ near few, (graph.neighbourhood center far many).neighbourhood center near few =
      graph.neighbourhood center (min far near) (min many few) := by
    intro near few
    -- The inner nodes are among the outer ones, so the outer cut does not show in the edges.
    have within : graph.surroundings center (min far near) (min many few) ⊆
        graph.surroundings center far many :=
      (prefix_surroundings graph center (Int.min_le_left far near)
        (Int.min_le_left many few)).subset
    rw [neighbourhood, surroundings_neighbourhood, neighbourhood, induced_induced within,
      neighbourhood]
  refine ⟨smaller near few, ?_, ?_, ?_⟩
  · -- The smaller of a number and itself is the number.
    rw [smaller, Int.min_self, Int.min_self]
  · -- Fewer hops and less room leave the first ones of the surroundings.
    intro hops room
    rw [neighbourhood_nodes, neighbourhood_nodes]
    exact prefix_surroundings graph center hops room
  · -- A generator keeps what the neighbourhood keeps, so its entries behave alike.
    rw [Generator.serve, Generator.serve, neighbourhood_nodes, neighbourhood_nodes]
    exact prefix_surroundings graph center (by simp) (Int.le_refl _)

/-- A room of three ends the cut in the middle of a level, and what is cut out of it is smaller. -/
theorem neighbourhood_neighbourhood_cut :
    let graph : Graph :=
      ⟨[1, 2, 3, 4, 5], [(1, 2), (4, 1), (3, 1), (4, 5), (2, 3)], by decide, by decide⟩
    (1 : Int) ≤ 2 ∧ (2 : Int) ≤ 3 ∧ (graph.neighbourhood 1 2 3).nodes = [1, 2, 3] ∧
    ((graph.neighbourhood 1 2 3).neighbourhood 1 1 2).nodes = [1, 2] ∧
    (graph.neighbourhood 1 1 2).nodes <+: [1, 2, 3] := by
  intro graph
  -- Both cuts can be computed, and the outer one ends within a level.
  have outer : (graph.neighbourhood 1 2 3).nodes = [1, 2, 3] := by decide +kernel
  have inner : (graph.neighbourhood 1 1 2).nodes = [1, 2] := by decide +kernel
  obtain ⟨nested, -, ahead, -⟩ := neighbourhood_neighbourhood graph 1 2 3 1 2
  refine ⟨by decide, by decide, outer, ?_, ?_⟩
  · -- Cutting twice is cutting once, with the smaller numbers.
    rw [nested]
    exact inner
  · rw [← outer]
    exact ahead (by decide) (by decide)

end Graph

end Flowprint
