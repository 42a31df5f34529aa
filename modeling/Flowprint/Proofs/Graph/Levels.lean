import Flowprint.Graph.Sweep
import Mathlib.Data.Finset.Sort

/-! The nodes around a center stand in levels, and a sweep keeps them level after level. -/

namespace Flowprint

/-- Sorting lists the finite set of the elements in its order. -/
theorem Ascending.sort_eq {α : Type} [LinearOrder α] (items : List α) :
    Ascending.sort items = items.toFinset.sort := by
  -- Two strictly ascending lists with the same elements are the same list.
  refine List.SortedLT.eq_of_mem_iff (Ascending.pairwise_sort items).sortedLT
    (Finset.sortedLT_sort _) ?_
  intro item
  simp

/-- Lists with the same elements are sorted into the same list. -/
theorem Ascending.sort_congr {α : Type} [LinearOrder α] {first second : List α}
    (same : ∀ item, item ∈ first ↔ item ∈ second) :
    Ascending.sort first = Ascending.sort second := by
  -- A list is sorted by way of its set of elements.
  rw [sort_eq, sort_eq, List.toFinset.ext same]

namespace Graph

/-- What edges join to an address: their ends before their starts, each in ascending order. -/
def around (graph : Graph) (address : Address) : List Address :=
  ((graph.edges.filter (·.1 = address)).map (·.2)).toFinset.sort ++
    ((graph.edges.filter (·.2 = address)).map (·.1)).toFinset.sort

/-- The nodes around a level that stand in no earlier one, each where it is met first. -/
def nextLevel (graph : Graph) (earlier level : List Address) : List Address :=
  Distinct.ofList <| (level.flatMap graph.around).filter fun address =>
    address ∈ graph.nodes ∧ address ∉ earlier

/-- All levels up to some number of hops in one list, and the last of them by itself. -/
def levelsTo (graph : Graph) (center : Address) : Nat → List Address × List Address
  -- Every new level is found from the last one, and the others only say what is not new.
  | 0 => ([center], [center])
  | hops + 1 =>
    let (earlier, last) := levelsTo graph center hops
    (earlier ++ graph.nextLevel earlier last, graph.nextLevel earlier last)

/-- All levels up to some number of hops, the nearest level first. -/
def levels (graph : Graph) (center : Address) (hops : Nat) : List Address :=
  (graph.levelsTo center hops).1

/-- The level at some number of hops. -/
def level (graph : Graph) (center : Address) (hops : Nat) : List Address :=
  (graph.levelsTo center hops).2

variable {graph : Graph} {center address : Address} {distance : Int}

/-- At no hops there is the center alone. -/
@[simp] theorem levels_zero : graph.levels center 0 = [center] := rfl

/-- The first level is the center. -/
@[simp] theorem level_zero : graph.level center 0 = [center] := rfl

/-- One more hop adds one more level. -/
theorem levels_succ (hops : Nat) :
    graph.levels center (hops + 1) = graph.levels center hops ++ graph.level center (hops + 1) :=
  rfl

/-- Each further level is found from the one before it. -/
theorem level_succ (hops : Nat) :
    graph.level center (hops + 1) =
      graph.nextLevel (graph.levels center hops) (graph.level center hops) :=
  rfl

/-- The levels together are the levels one after the other. -/
theorem levels_eq_flatMap (hops : Nat) :
    graph.levels center hops = (List.range (hops + 1)).flatMap (graph.level center) := by
  -- Every hop puts its own level behind the ones before it.
  induction hops with
  | zero => simp
  | succ hops ih => rw [levels_succ, ih, @List.range_succ (hops + 1)]; simp

/-- More hops only add levels at the end. -/
theorem levels_extend {near far : Nat} (ordered : near ≤ far) :
    graph.levels center near <+: graph.levels center far := by
  -- The induction goes from the near hops on, so it adds one level at a time.
  induction far, ordered using Nat.le_induction with
  | base => exact List.prefix_rfl
  | succ far _ ih =>
    rw [levels_succ]
    exact ih.trans (List.prefix_append _ _)

/-- The children and the parents are what edges join to an address. -/
theorem around_eq (graph : Graph) (address : Address) :
    graph.around address = graph.children address ++ graph.parents address := by
  -- Both halves are sorted, and sorting forgets how often and where an element stood.
  simp only [around, children, parents, Ascending.sort_eq]

/-- The next level is what a level's neighbours add to the earlier levels. -/
theorem nextLevel_eq (graph : Graph) (earlier level : List Address) :
    graph.nextLevel earlier level = Sweep.unseen earlier (level.flatMap graph.neighbours) := by
  -- Neighbours are what is around a node, as far as it is a node itself.
  rw [Sweep.unseen_eq_ofList, nextLevel, List.filter_flatMap, List.filter_flatMap]
  congr 2
  funext address
  simp only [around_eq, neighbours, List.filter_filter, List.contains_eq_mem]
  congr 1
  funext other
  rw [Bool.and_comm, Bool.decide_and]

/-- No address stands in two levels or twice in one. -/
theorem nodup_levels (graph : Graph) (center : Address) (hops : Nat) :
    (graph.levels center hops).Nodup := by
  -- A level repeats nothing, and it shares nothing with the earlier ones.
  induction hops with
  | zero => exact List.nodup_singleton center
  | succ hops ih =>
    rw [levels_succ, level_succ, nextLevel_eq]
    refine List.nodup_append.mpr ⟨ih, Sweep.nodup_unseen _ _, ?_⟩
    rintro address earlier other late rfl
    exact (Sweep.mem_unseen.mp late).2 earlier

/-- A level is a part of all levels up to it. -/
theorem level_subset_levels (graph : Graph) (center : Address) (hops : Nat) :
    graph.level center hops ⊆ graph.levels center hops := by
  -- The only level of a center is all there is; later levels are appended.
  cases hops with
  | zero => exact List.Subset.refl _
  | succ hops => exact List.subset_append_right _ _

/-- The levels hold nodes only. -/
theorem mem_nodes_of_mem_levels (member : center ∈ graph.nodes) {hops : Nat}
    (found : address ∈ graph.levels center hops) : address ∈ graph.nodes := by
  -- Only the center comes from outside, and it is a node by assumption.
  induction hops with
  | zero => rw [List.mem_singleton.mp found]; exact member
  | succ hops ih =>
    rw [levels_succ, level_succ, nextLevel_eq, List.mem_append] at found
    rcases found with earlier | late
    · exact ih earlier
    · -- A level behind the first one consists of neighbours.
      obtain ⟨before, _, neighbour⟩ := List.mem_flatMap.mp (Sweep.mem_unseen.mp late).1
      exact (mem_neighbours.mp neighbour).2

/-- Two graphs have the same levels up to the first node whose neighbours are not the same. -/
theorem level_congr {first second : Graph} {hops : Nat}
    (same : ∀ near < hops, ∀ address ∈ first.level center near,
      first.neighbours address = second.neighbours address) :
    first.level center hops = second.level center hops ∧
      first.levels center hops = second.levels center hops := by
  -- Both levels are found from the levels before them, which are the same.
  induction hops with
  | zero => exact ⟨rfl, rfl⟩
  | succ hops ih =>
    obtain ⟨level, levels⟩ := ih fun near closer => same near (closer.trans (Nat.lt_succ_self hops))
    have next : first.level center (hops + 1) = second.level center (hops + 1) := by
      -- The search goes through the neighbours of the level before, node by node.
      rw [level_succ, level_succ, nextLevel_eq, nextLevel_eq, ← level, ← levels]
      congr 1
      exact List.flatMap_congr (same hops (Nat.lt_succ_self hops))
    refine ⟨next, ?_⟩
    rw [levels_succ, levels_succ, levels, next]

end Graph

namespace Sweep

open Flowprint.Graph

/-- The nodes of the next level that the visited part of a level leads to, within the distance. -/
def ahead (graph : Graph) (center : Address) (distance : Int) (hops : Nat)
    (done : List Address) : List Address :=
  if distance ≤ hops then [] else graph.nextLevel (graph.levels center hops) done

/--
A sweep that has visited a part of one level and has the rest of it to do.

Behind that rest the queue holds the part of the next level that was found already.
-/
structure Midway (graph : Graph) (center : Address) (distance : Int) (hops : Nat)
    (done todo : List Address) (sweep : Sweep) : Prop where
  /-- The two parts make up the level. -/
  level : graph.level center hops = done ++ todo
  /-- What is kept lacks only the rest of the level. -/
  kept : sweep.kept ++ todo = graph.levels center hops
  /-- The rest of the level stands in front of what was found beyond it. -/
  queue : sweep.queue =
    todo.map (·, hops) ++ (ahead graph center distance hops done).map (·, hops + 1)
  /-- Nothing else was ever put into the queue. -/
  seen : ∀ address, address ∈ sweep.seen ↔
    address ∈ graph.levels center hops ∨ address ∈ ahead graph center distance hops done

variable {graph : Graph} {center address : Address} {distance : Int} {hops : Nat}
  {done todo : List Address} {sweep : Sweep}

/-- A sweep starts before the level of its center. -/
theorem midway_start (graph : Graph) (center : Address) (distance : Int) :
    Midway graph center distance 0 [] [center] (start center) := by
  -- The first level has been entered, and nothing of it is visited.
  have nothing : ahead graph center distance 0 [] = [] := by
    simp [ahead, nextLevel, Distinct.ofList]
  exact ⟨rfl, rfl, by simp [start, nothing], by simp [start, nothing]⟩

/-- A visit adds to what was found beyond the level. -/
theorem ahead_append (address : Address) (seen : ∀ other, other ∈ sweep.seen ↔
      other ∈ graph.levels center hops ∨ other ∈ ahead graph center distance hops done) :
    ahead graph center distance hops (done ++ [address]) =
      ahead graph center distance hops done ++
        discoveries graph distance sweep.seen address hops := by
  unfold discoveries
  unfold ahead at seen ⊢
  by_cases rim : distance ≤ hops
  · -- At the rim nothing is looked for any more.
    simp only [if_pos rim, List.append_nil]
  · simp only [if_neg rim, nextLevel_eq, List.flatMap_append, List.flatMap_singleton,
      unseen_append] at seen ⊢
    -- The sweep has seen exactly what the earlier levels and the earlier visits have shown.
    congr 1
    apply unseen_congr
    intro other
    rw [seen, List.mem_append, or_comm]

/-- One step moves the front of the queue from the rest of the level to the visited part. -/
theorem Midway.step (midway : Midway graph center distance hops done (address :: todo) sweep) :
    Midway graph center distance hops (done ++ [address]) todo (sweep.step graph distance) := by
  -- The visited node comes first in the queue, and what it leads to goes to the end of it.
  have queue := midway.queue
  rw [List.map_cons, List.cons_append] at queue
  have found := ahead_append address midway.seen
  unfold Sweep.step
  rw [queue]
  dsimp only
  refine ⟨?_, ?_, ?_, ?_⟩
  · -- The node is one of the visited part now, and the level is still made up of both parts.
    rw [midway.level, List.append_assoc, List.singleton_append]
  · -- It is kept behind the others.
    rw [← midway.kept, List.append_assoc, List.singleton_append]
  · -- Its neighbours stand behind those that were found from the nodes before it.
    rw [found, List.map_append, List.append_assoc]
  · -- What has been seen are the levels and all that was found beyond them.
    intro other
    rw [found]
    simp only [List.mem_append, midway.seen]
    grind

/-- At the end of a level that is not at the rim, the sweep stands before the next level. -/
theorem Midway.turn (midway : Midway graph center distance hops done [] sweep)
    (inside : ¬distance ≤ hops) :
    Midway graph center distance (hops + 1) [] (graph.level center (hops + 1)) sweep := by
  obtain ⟨level, kept, queue, seen⟩ := midway
  rw [List.append_nil] at level kept
  -- The whole level has been visited, so what lies ahead is the whole next level.
  have found : ahead graph center distance hops done = graph.level center (hops + 1) := by
    rw [ahead, if_neg inside, level_succ, level]
  have nothing : ahead graph center distance (hops + 1) [] = [] := by
    simp [ahead, nextLevel, Distinct.ofList]
  refine ⟨rfl, ?_, ?_, ?_⟩
  · -- What is kept makes up all levels together with the next one.
    rw [kept, levels_succ]
  · -- The queue is the next level, and nothing beyond it has been found.
    simpa only [found, nothing, List.map_nil, List.nil_append, List.append_nil] using queue
  · -- What has been seen is the levels with the next one.
    intro other
    rw [seen, found, nothing, levels_succ, List.mem_append]
    simp

/-- A sweep has a node to visit in some level, or it has kept all levels within the distance. -/
theorem Midway.next_or_complete (midway : Midway graph center distance hops done todo sweep)
    (within : hops ≤ distance.toNat) :
    (∃ hops done address todo, hops ≤ distance.toNat ∧
      Midway graph center distance hops done (address :: todo) sweep) ∨
    sweep.queue = [] ∧ sweep.kept = graph.levels center distance.toNat := by
  -- Levels may be empty, so the search for a node goes on level by level up to the rim.
  induction gap : distance.toNat - hops generalizing hops done todo with
  | zero =>
    cases todo with
    | cons address todo => exact Or.inl ⟨hops, done, address, todo, within, midway⟩
    | nil =>
      -- The last level within the distance is done, and behind it the queue is empty.
      have last : hops = distance.toNat := by omega
      have rim : distance ≤ hops := by omega
      refine Or.inr ⟨?_, ?_⟩
      · rw [midway.queue, ahead, if_pos rim]; rfl
      · rw [← last, ← midway.kept, List.append_nil]
  | succ gap ih =>
    cases todo with
    | cons address todo => exact Or.inl ⟨hops, done, address, todo, within, midway⟩
    | nil => exact ih (midway.turn (by omega)) (by omega) (by omega)

/-- A sweep keeps the levels within the distance as far as there is room. -/
theorem Midway.run_kept (midway : Midway graph center distance hops done todo sweep)
    (within : hops ≤ distance.toNat) (room : Nat) :
    (run graph distance room sweep).kept =
      (graph.levels center distance.toNat).take (sweep.kept.length + room) := by
  -- The induction is on the room, and each step uses up one place of it.
  induction room generalizing sweep hops done todo with
  | zero =>
    -- What is kept is the front part of the levels.
    have front : sweep.kept <+: graph.levels center distance.toNat :=
      (midway.kept ▸ List.prefix_append sweep.kept todo).trans (levels_extend within)
    exact List.prefix_iff_eq_take.mp front
  | succ room ih =>
    rcases midway.next_or_complete within with
      ⟨hops, done, address, todo, within, midway⟩ | complete
    · -- There is a node to visit, possibly in a later level than the one that was finished.
      have queue := midway.queue
      rw [List.map_cons, List.cons_append] at queue
      have longer : (sweep.step graph distance).kept.length = sweep.kept.length + 1 := by
        simp [Sweep.step, queue]
      rw [run, queue]
      simp only []
      rw [ih midway.step within, longer]
      congr 1
      omega
    · -- Room that is left over stays unused.
      obtain ⟨empty, all⟩ := complete
      rw [run, empty]
      simp only []
      rw [all, List.take_of_length_le (by omega)]

end Sweep

namespace Graph

variable {graph : Graph} {center : Address}

/-- The surroundings of a node are its levels, cut off where there is no more room. -/
theorem surroundings_eq (member : center ∈ graph.nodes) (distance maxSize : Int) :
    graph.surroundings center distance maxSize =
      (graph.levels center distance.toNat).take maxSize.toNat := by
  -- The sweep starts with nothing kept, so all of the room is its own.
  rw [surroundings, if_pos member,
    (Sweep.midway_start graph center distance).run_kept (Nat.zero_le _)]
  simp [Sweep.start]

/-- Surroundings hold nodes only. -/
theorem surroundings_subset (graph : Graph) (center : Address) (distance maxSize : Int) :
    graph.surroundings center distance maxSize ⊆ graph.nodes := by
  -- A center that is a node has levels, and these hold nodes only.
  by_cases member : center ∈ graph.nodes
  · rw [surroundings_eq member]
    intro address kept
    exact mem_nodes_of_mem_levels member (List.mem_of_mem_take kept)
  · simp [surroundings, member]

/-- The nodes of a neighbourhood are its surroundings, since these repeat nothing. -/
theorem neighbourhood_nodes (graph : Graph) (center : Address) (distance maxSize : Int) :
    (graph.neighbourhood center distance maxSize).nodes =
      graph.surroundings center distance maxSize := by
  -- Taking a front part of the levels keeps them free of repetition.
  refine Distinct.ofList_eq_self ?_
  by_cases member : center ∈ graph.nodes
  · rw [surroundings_eq member]
    exact (nodup_levels graph center _).sublist (List.take_sublist _ _)
  · simp [surroundings, member]

/-- The edges of a neighbourhood are those of the graph that join two nodes of its surroundings. -/
theorem neighbourhood_edges (graph : Graph) (center : Address) (distance maxSize : Int) :
    (graph.neighbourhood center distance maxSize).edges = graph.edges.filter fun edge =>
      edge.1 ∈ graph.surroundings center distance maxSize ∧
      edge.2 ∈ graph.surroundings center distance maxSize := by
  -- Both sides ask whether the two ends are kept.
  simp only [neighbourhood, induced, List.contains_eq_mem, Bool.decide_and]

/-- A node is the first one of its own neighbourhood, if there is room for any node at all. -/
theorem head?_neighbourhood (member : center ∈ graph.nodes) (distance : Int) {maxSize : Int}
    (room : 0 < maxSize) :
    (graph.neighbourhood center distance maxSize).nodes.head? = some center := by
  -- All levels begin with the center.
  obtain ⟨beyond, split⟩ : [center] <+: graph.levels center distance.toNat :=
    levels_extend (Nat.zero_le _)
  obtain ⟨more, positive⟩ : ∃ more, maxSize.toNat = more + 1 := ⟨maxSize.toNat - 1, by omega⟩
  rw [neighbourhood_nodes, surroundings_eq member, ← split, positive]
  rfl

/--
A neighbourhood holds the levels within the distance as far as there is room.

Its edges are those of the graph, in their order, that join two nodes of it.
-/
theorem neighbourhood_eq_levels (graph : Graph) (center : Address) (distance maxSize : Int) :
    (graph.neighbourhood center distance maxSize).nodes =
      (if center ∈ graph.nodes then
        ((List.range (distance.toNat + 1)).flatMap (graph.level center)).take maxSize.toNat
      else []) ∧
    (graph.neighbourhood center distance maxSize).edges =
      graph.edges.filter (fun edge =>
        edge.1 ∈ (graph.neighbourhood center distance maxSize).nodes ∧
        edge.2 ∈ (graph.neighbourhood center distance maxSize).nodes) ∧
    (center ∉ graph.nodes → (graph.neighbourhood center distance maxSize).edges = []) := by
  -- The edges are chosen by the nodes that were kept, whatever these are.
  have nodes := neighbourhood_nodes graph center distance maxSize
  have edges : (graph.neighbourhood center distance maxSize).edges =
      graph.edges.filter (fun edge =>
        edge.1 ∈ (graph.neighbourhood center distance maxSize).nodes ∧
        edge.2 ∈ (graph.neighbourhood center distance maxSize).nodes) := by
    rw [nodes, neighbourhood, induced]
    simp only [List.contains_eq_mem, Bool.decide_and]
  refine ⟨?_, edges, ?_⟩
  · rw [nodes]
    split
    · next member => rw [surroundings_eq member, levels_eq_flatMap]
    · next outside => rw [surroundings, if_neg outside]
  · intro outside
    rw [edges, nodes, surroundings, if_neg outside]
    simp

end Graph

end Flowprint
