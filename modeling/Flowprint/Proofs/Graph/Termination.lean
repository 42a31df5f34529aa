import Flowprint.Proofs.Graph.Distance

/-!
A sweep ends, because each visit keeps a node that was not kept before.

The nodes kept are counted without repetition, so a node that came to the front of the queue a
second time would take a visit and leave the count as it was.
-/

namespace Flowprint

namespace Sweep

/-- The sweep goes on: there is a node to visit, and fewer nodes are kept than there may be. -/
def Continues (maxSize : Int) (sweep : Sweep) : Prop :=
  sweep.queue ≠ [] ∧ (sweep.kept.length : Int) < maxSize

instance (maxSize : Int) (sweep : Sweep) : Decidable (sweep.Continues maxSize) :=
  inferInstanceAs (Decidable (_ ∧ _))

/-- A visit keeps the node at the front of the queue unless it is kept already. -/
def visit (graph : Graph) (distance : Int) (sweep : Sweep) : Sweep :=
  match sweep.queue with
  | [] => sweep
  | (address, hops) :: rest =>
    let found := discoveries graph distance sweep.seen address hops
    { kept := Distinct.insert sweep.kept address
      queue := rest ++ found.map (·, hops + 1)
      seen := found ++ sweep.seen }

/-- A sweep from a center after some visits, before each of which it went on. -/
inductive Visits (graph : Graph) (center : Address) (distance maxSize : Int) : Nat → Sweep → Prop
  /-- No node has been visited. -/
  | start : Visits graph center distance maxSize 0 (start center)
  /-- One more node has been visited. -/
  | visit {count : Nat} {sweep : Sweep} (visits : Visits graph center distance maxSize count sweep)
      (continues : sweep.Continues maxSize) :
      Visits graph center distance maxSize (count + 1) (sweep.visit graph distance)

/-- The queue holds nodes that are still to be kept, in the order of their hops. -/
structure Orderly (graph : Graph) (distance : Int) (sweep : Sweep) : Prop where
  /-- Only nodes are visited. -/
  nodes : ∀ entry ∈ sweep.queue, entry.1 ∈ graph.nodes
  /-- No node stands in the queue twice. -/
  distinct : (sweep.queue.map (·.1)).Nodup
  /-- What stands in the queue will not be put there again. -/
  seen : ∀ entry ∈ sweep.queue, entry.1 ∈ sweep.seen
  /-- What stands in the queue is not kept yet. -/
  unkept : ∀ entry ∈ sweep.queue, entry.1 ∉ sweep.kept
  /-- The hops do not decrease along the queue. -/
  ascending : (sweep.queue.map (·.2)).Pairwise (· ≤ ·)
  /-- No two entries are more than one hop apart. -/
  close : ∀ first ∈ sweep.queue, ∀ last ∈ sweep.queue, last.2 ≤ first.2 + 1
  /-- The hops do not exceed the distance, and the center is always at no hops. -/
  within : ∀ entry ∈ sweep.queue, (entry.2 : Int) ≤ max 0 distance

variable {graph : Graph} {center address : Address} {distance maxSize : Int} {hops count : Nat}
  {done todo : List Address} {sweep : Sweep}

/-- What was found beyond a level is new, and nothing is found beyond the distance. -/
theorem mem_ahead (found : address ∈ ahead graph center distance hops done) :
    address ∈ graph.nodes ∧ address ∉ graph.levels center hops ∧ (hops : Int) < distance := by
  unfold ahead at found
  split at found
  · cases found
  · next inside =>
    -- Beyond the level there are only neighbours, and these are nodes.
    rw [Graph.nextLevel_eq, mem_unseen, List.mem_flatMap] at found
    obtain ⟨⟨before, -, neighbour⟩, new⟩ := found
    exact ⟨(Graph.mem_neighbours.mp neighbour).2, new, by omega⟩

/-- Nothing is found beyond a level twice. -/
theorem nodup_ahead (graph : Graph) (center : Address) (distance : Int) (hops : Nat)
    (done : List Address) : (ahead graph center distance hops done).Nodup := by
  -- At the rim nothing is found; otherwise the next level repeats no node.
  unfold ahead
  split
  · exact List.nodup_nil
  · rw [Graph.nextLevel_eq]
    exact nodup_unseen _ _

/-- A sweep that has a part of one level to do is orderly. -/
theorem Midway.orderly (midway : Midway graph center distance hops done todo sweep)
    (member : center ∈ graph.nodes) (within : hops ≤ distance.toNat) :
    sweep.Orderly graph distance := by
  -- What is kept, what is left of the level and what was found beyond it share no node.
  have levels := Graph.nodup_levels graph center hops
  rw [← midway.kept, List.nodup_append] at levels
  obtain ⟨-, rest, apart⟩ := levels
  have inLevels {address : Address} (left : address ∈ todo) :
      address ∈ graph.levels center hops := by
    rw [← midway.kept]
    exact List.mem_append_right _ left
  -- Every entry of the queue is of one of two kinds.
  have kinds {entry : Address × Nat} (queued : entry ∈ sweep.queue) :
      (entry.1 ∈ todo ∧ entry.2 = hops) ∨
        (entry.1 ∈ ahead graph center distance hops done ∧ entry.2 = hops + 1) := by
    rw [midway.queue, List.mem_append, List.mem_map, List.mem_map] at queued
    rcases queued with ⟨address, left, rfl⟩ | ⟨address, found, rfl⟩
    · exact Or.inl ⟨left, rfl⟩
    · exact Or.inr ⟨found, rfl⟩
  refine ⟨?_, ?_, ?_, ?_, ?_, ?_, ?_⟩
  · -- The queue holds nodes: those of the level are, and so are neighbours.
    intro entry queued
    rcases kinds queued with ⟨left, -⟩ | ⟨found, -⟩
    · exact Graph.mem_nodes_of_mem_levels member (inLevels left)
    · exact (mem_ahead found).1
  · -- It repeats none, as what is left and what was found share no node.
    rw [midway.queue, List.map_append, List.map_map, List.map_map]
    simp only [Function.comp_def, List.map_id']
    refine List.nodup_append.mpr ⟨rest, nodup_ahead _ _ _ _ _, ?_⟩
    rintro address left other found rfl
    exact (mem_ahead found).2.1 (inLevels left)
  · -- Whatever is in the queue has been seen.
    intro entry queued
    rw [midway.seen]
    exact (kinds queued).imp (fun left => inLevels left.1) (fun found => found.1)
  · -- It has not been kept: it comes later in the levels, or beyond all of them.
    intro entry queued kept
    rcases kinds queued with ⟨left, -⟩ | ⟨found, -⟩
    · exact apart _ kept _ left rfl
    · refine (mem_ahead found).2.1 ?_
      rw [← midway.kept]
      exact List.mem_append_left _ kept
  · -- The entries of the level come first, and the others are one hop further.
    rw [midway.queue, List.map_append, List.map_map, List.map_map]
    simp only [Function.comp_def, List.map_const']
    refine List.pairwise_append.mpr ⟨?_, ?_, ?_⟩
    · exact List.pairwise_replicate.mpr (Or.inr le_rfl)
    · exact List.pairwise_replicate.mpr (Or.inr le_rfl)
    · intro near here far there
      rw [List.eq_of_mem_replicate here, List.eq_of_mem_replicate there]
      exact Nat.le_succ hops
  · -- So no two of them are more than one hop apart.
    intro first queued last queued'
    rcases kinds queued with ⟨-, near⟩ | ⟨-, near⟩ <;>
      rcases kinds queued' with ⟨-, far⟩ | ⟨-, far⟩ <;> omega
  · -- None of them is beyond the rim, where nothing is found.
    intro entry queued
    rcases kinds queued with ⟨-, here⟩ | ⟨found, further⟩
    · omega
    · have inside := (mem_ahead found).2.2
      omega

/-- A node that is not kept yet is put behind those that are. -/
theorem Orderly.visit_eq (orderly : sweep.Orderly graph distance) :
    sweep.visit graph distance = sweep.step graph distance := by
  -- The node in front is not kept yet, so inserting it puts it at the end.
  rw [visit, step]
  cases queue : sweep.queue with
  | nil => rfl
  | cons entry rest =>
    have new : entry.1 ∉ sweep.kept := orderly.unkept entry (queue ▸ List.mem_cons_self)
    dsimp only
    rw [Distinct.insert_of_notMem new]

/-- A visit keeps one node more, which was not kept before. -/
theorem Orderly.kept_visit (orderly : sweep.Orderly graph distance) (waiting : sweep.queue ≠ []) :
    ∃ address ∉ sweep.kept, (sweep.visit graph distance).kept = sweep.kept ++ [address] := by
  -- The node in front of the queue is the one that is kept.
  obtain ⟨⟨address, hops⟩, rest, queue⟩ := List.exists_cons_of_ne_nil waiting
  refine ⟨address, orderly.unkept (address, hops) (queue ▸ List.mem_cons_self), ?_⟩
  rw [orderly.visit_eq, step, queue]

/-- There is a node to visit as long as the levels within the distance are not all kept. -/
theorem Midway.queue_ne_nil_iff (midway : Midway graph center distance hops done todo sweep)
    (within : hops ≤ distance.toNat) :
    sweep.queue ≠ [] ↔ sweep.kept.length < (graph.levels center distance.toNat).length := by
  rcases midway.next_or_complete within with ⟨hops, done, address, todo, within, midway⟩ | complete
  · -- The node to visit stands in the levels right behind what is kept.
    have shorter : (sweep.kept ++ address :: todo).length ≤
        (graph.levels center distance.toNat).length := by
      rw [midway.kept]
      exact (Graph.levels_extend within).length_le
    rw [List.length_append, List.length_cons] at shorter
    have queue := midway.queue
    rw [List.map_cons, List.cons_append] at queue
    refine ⟨fun _ => by omega, fun _ => ?_⟩
    rw [queue]
    exact List.cons_ne_nil _ _
  · -- All levels are kept and the queue is empty, so neither side holds.
    obtain ⟨empty, all⟩ := complete
    rw [empty, all]
    exact ⟨fun waiting => absurd rfl waiting, fun shorter => absurd shorter (lt_irrefl _)⟩

/-- One step more is one step behind the others, if these have left a node to visit. -/
theorem run_succ (waiting : (run graph distance count sweep).queue ≠ []) :
    run graph distance (count + 1) sweep =
      (run graph distance count sweep).step graph distance := by
  -- The induction is on the steps before the last one, for whatever sweep they begin with.
  induction count generalizing sweep with
  | zero =>
    obtain ⟨entry, rest, queue⟩ := List.exists_cons_of_ne_nil (show sweep.queue ≠ [] from waiting)
    simp only [run, queue]
  | succ count ih =>
    cases queue : sweep.queue with
    | nil =>
      -- A sweep without a node to visit stays as it is.
      simp only [run, queue] at waiting
      exact absurd rfl waiting
    | cons entry rest =>
      have first (room : Nat) : run graph distance (room + 1) sweep =
          run graph distance room (sweep.step graph distance) := by
        simp only [run, queue]
      rw [first] at waiting
      rw [first, first, ih waiting]

/-- After some visits a sweep is in the middle of a level, and it has kept a node on each visit. -/
theorem Visits.exists_midway (visits : Visits graph center distance maxSize count sweep)
    (member : center ∈ graph.nodes) :
    (∃ hops done todo, hops ≤ distance.toNat ∧
      Midway graph center distance hops done todo sweep) ∧
    sweep.kept.length = count ∧ sweep = run graph distance count (Sweep.start center) := by
  induction visits with
  -- Before the first visit the center is all there is of the first level.
  | start =>
    exact ⟨⟨0, [], [center], Nat.zero_le _, midway_start graph center distance⟩, rfl, rfl⟩
  | @visit count sweep visits continues ih =>
    obtain ⟨⟨hops, done, todo, within, midway⟩, kept, reached⟩ := ih
    have orderly := midway.orderly member within
    -- The node of this visit is the next of its level, or there was none to visit.
    rcases midway.next_or_complete within with
      ⟨hops, done, address, todo, within, midway⟩ | ⟨empty, -⟩
    · refine ⟨⟨hops, done ++ [address], todo, within, ?_⟩, ?_, ?_⟩
      · rw [orderly.visit_eq]
        exact midway.step
      · -- One node more is kept by one visit more.
        obtain ⟨node, -, more⟩ := orderly.kept_visit continues.1
        rw [more, List.length_append, kept, List.length_singleton]
      · rw [orderly.visit_eq, run_succ (reached ▸ continues.1), ← reached]
    · exact absurd empty continues.1

/-- After some visits a sweep goes on as long as there is room and the levels are not all kept. -/
theorem Visits.continues_iff (visits : Visits graph center distance maxSize count sweep)
    (member : center ∈ graph.nodes) :
    sweep.Continues maxSize ↔
      count < min maxSize.toNat (graph.levels center distance.toNat).length := by
  -- What is kept counts the visits, so both bounds are on their number.
  obtain ⟨⟨hops, done, todo, within, midway⟩, kept, -⟩ := visits.exists_midway member
  rw [Continues, midway.queue_ne_nil_iff within, kept, lt_min_iff, and_comm]
  exact and_congr_left' (by omega)

/-- As many visits are made as there is room for, unless the levels are all kept earlier. -/
theorem exists_visits (member : center ∈ graph.nodes)
    (few : count ≤ min maxSize.toNat (graph.levels center distance.toNat).length) :
    ∃ sweep, Visits graph center distance maxSize count sweep := by
  -- The earlier visits leave a node and the room for it, so one more can be made.
  induction count with
  | zero => exact ⟨_, .start⟩
  | succ count ih =>
    obtain ⟨sweep, visits⟩ := ih (by omega)
    exact ⟨_, .visit visits ((visits.continues_iff member).mpr few)⟩

/-- No more visits are made than there is room for, and no more than there are levels to keep. -/
theorem Visits.count_le (visits : Visits graph center distance maxSize count sweep)
    (member : center ∈ graph.nodes) :
    count ≤ min maxSize.toNat (graph.levels center distance.toNat).length := by
  -- The last visit was made because the bounds were not reached before it.
  cases visits with
  | start => exact Nat.zero_le _
  | visit visits continues => exact (visits.continues_iff member).mp continues

end Sweep

namespace Graph

open Sweep

variable {graph : Graph} {center : Address}

/-- The levels hold no more nodes than there are. -/
theorem length_levels_le (member : center ∈ graph.nodes) (hops : Nat) :
    (graph.levels center hops).length ≤ graph.nodes.length :=
  -- Levels repeat no node, and all of them are nodes.
  (List.subperm_of_subset (nodup_levels graph center hops)
    fun _ found => mem_nodes_of_mem_levels member found).length_le

/--
A sweep ends after as many visits as it keeps nodes, and these are all within the distance or as
many as there may be.

Before every visit the queue is orderly, and each visit keeps a node that was not kept before. The
last of these states is the one whose nodes make up the neighbourhood.
-/
theorem sweep_terminates (member : center ∈ graph.nodes) (distance maxSize : Int) :
    ∃ last : Nat,
      (last : ℕ∞) = min (maxSize.toNat : ℕ∞) (graph.ball center distance.toNat).encard ∧
      last ≤ graph.nodes.length ∧
      (∀ count ≤ last, ∃ sweep, Visits graph center distance maxSize count sweep) ∧
      ∀ count sweep, Visits graph center distance maxSize count sweep →
        count ≤ last ∧
        (sweep.Continues maxSize ↔ count < last) ∧
        sweep.Orderly graph distance ∧
        sweep.kept.length = count ∧
        (sweep.Continues maxSize → ∃ address ∉ sweep.kept,
          (sweep.visit graph distance).kept = sweep.kept ++ [address]) ∧
        sweep = Sweep.run graph distance count (Sweep.start center) ∧
        (count = last → sweep.kept = (graph.neighbourhood center distance maxSize).nodes) := by
  -- The levels are the ball, and there are no more of them than nodes.
  have short := length_levels_le member distance.toNat
  refine ⟨min maxSize.toNat (graph.levels center distance.toNat).length, ?_, by omega,
    fun count few => exists_visits member few, ?_⟩
  · rw [encard_ball member]
    exact_mod_cast rfl
  · -- What is said of each state is read off a sweep in the middle of a level.
    intro count sweep visits
    obtain ⟨⟨hops, done, todo, within, midway⟩, kept, reached⟩ := visits.exists_midway member
    have orderly := midway.orderly member within
    refine ⟨visits.count_le member, visits.continues_iff member, orderly, kept,
      fun continues => orderly.kept_visit continues.1, reached, ?_⟩
    intro ended
    -- What is kept is the front part of the levels, of the same length as the neighbourhood.
    rw [neighbourhood_nodes, surroundings_eq member, reached,
      (midway_start graph center distance).run_kept (Nat.zero_le _), Sweep.start, List.length_nil,
      Nat.zero_add, List.take_eq_take_iff]
    omega

/--
A graph with a loop, an edge in both directions and an edge to no node, swept with much distance.

The node that is left out is still in the queue when there is no more room.
-/
theorem sweep_terminates_full :
    let graph : Graph :=
      ⟨[1, 2, 3], [(1, 1), (1, 2), (2, 1), (3, 1), (2, 9)], by decide, by decide⟩
    1 ∈ graph.nodes ∧ ∃ sweep, Visits graph 1 1000 2 2 sweep ∧ sweep.kept = [1, 2] ∧
      sweep.queue = [(3, 1)] ∧ sweep.Orderly graph 1000 ∧ ¬sweep.Continues 2 ∧
      (2 : ℕ∞) = min 2 (graph.ball 1 1000).encard := by
  intro graph
  have member : 1 ∈ graph.nodes := by decide
  obtain ⟨last, many, -, reaches, states⟩ := sweep_terminates member 1000 2
  -- There are no more visits than there is room for, and the second one is reached.
  have bound : last ≤ 2 := by
    have room : (last : ℕ∞) ≤ 2 := many ▸ min_le_left _ _
    exact_mod_cast room
  -- Two visits can be made, the center and its only neighbour.
  have visits : Visits graph 1 1000 2 2 _ := .visit (.visit .start (by decide)) (by decide)
  obtain ⟨few, continues, orderly, -⟩ := states 2 _ visits
  obtain rfl : last = 2 := by omega
  exact ⟨member, _, visits, by decide, by decide, orderly, by simp [continues], many⟩

end Graph

end Flowprint
