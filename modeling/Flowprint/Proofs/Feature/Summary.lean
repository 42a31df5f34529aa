import Flowprint.Feature.Summary
import Flowprint.Proofs.Feature.Collection
import Flowprint.Proofs.Feature.Ngram
import Flowprint.Proofs.Flowgraph.History
import Flowprint.Proofs.Graph.Distance
import Mathlib.Data.List.Basic
import Mathlib.Order.CompletePartialOrder

/-! A summary counts what a function has, and it names the first of the most frequent tuples. -/

namespace Flowprint

/-- Elements are listed in the order in which they occur first. -/
theorem Distinct.pairwise_ofList {α : Type} [DecidableEq α] [BEq α] [LawfulBEq α] (items : List α) :
    (ofList items).Pairwise fun earlier later => items.idxOf earlier < items.idxOf later := by
  -- The last element is new or not, and either way the others keep their places.
  induction items using List.reverseRecOn with
  | nil => exact List.Pairwise.nil
  | append_singleton items last ih =>
    have kept : (ofList items).Pairwise fun earlier later =>
        (items ++ [last]).idxOf earlier < (items ++ [last]).idxOf later := by
      refine ih.imp_of_mem ?_
      intro earlier later here there before
      rwa [List.idxOf_append_of_mem (mem_ofList.mp here),
        List.idxOf_append_of_mem (mem_ofList.mp there)]
    rw [ofList_concat]
    by_cases present : last ∈ items
    · rw [insert, if_pos (by simpa using mem_ofList.mpr present)]
      exact kept
    · -- A new element occurs first behind everything else.
      rw [insert_of_notMem (mt mem_ofList.mp present), List.pairwise_append]
      refine ⟨kept, List.pairwise_singleton _ _, ?_⟩
      intro earlier member final same
      have inside := List.idxOf_lt_length_of_mem (mem_ofList.mp member)
      rw [List.mem_singleton.mp same, List.idxOf_append_of_mem (mem_ofList.mp member),
        List.idxOf_append_of_notMem present]
      omega

/-- A bound on the greatest of some numbers bounds each of them. -/
theorem cast_foldl_max_le_iff {items : List Nat} {start : Nat} {bound : ℕ∞} :
    ((items.foldl max start : Nat) : ℕ∞) ≤ bound ↔
      (start : ℕ∞) ≤ bound ∧ ∀ item ∈ items, (item : ℕ∞) ≤ bound := by
  -- The start is what was seen before, so the bound is asked of it and of each item.
  induction items generalizing start with
  | nil => simp
  | cons item rest ih =>
    rw [List.foldl_cons, ih, Nat.mono_cast.map_max, max_le_iff, List.forall_mem_cons, and_assoc]

namespace Summary

/-- A counted element leads: those before it are less frequent, and those behind it no more so. -/
def Leads {α : Type} (best : α × Nat) (counted : List (α × Nat)) : Prop :=
  ∃ before after, counted = before ++ best :: after ∧
    (∀ other ∈ before, other.2 < best.2) ∧ ∀ other ∈ after, other.2 ≤ best.2

/-- Comparing one element after another finds the one that leads. -/
theorem leads_foldl_better {α : Type} (first : α × Nat) (rest : List (α × Nat)) :
    Leads (rest.foldl better first) (first :: rest) := by
  -- The last element is better than the best of the others, or it changes nothing.
  induction rest using List.reverseRecOn with
  | nil => exact ⟨[], [], rfl, by simp, by simp⟩
  | append_singleton rest last ih =>
    obtain ⟨before, after, whole, below, within⟩ := ih
    rw [List.foldl_append, List.foldl_cons, List.foldl_nil]
    generalize rest.foldl better first = best at whole below within
    rw [better]
    split
    · next worse =>
      -- The last element beats the best of the others, and with it every one of them.
      refine ⟨first :: rest, [], by simp, ?_, by simp⟩
      intro other member
      rw [whole] at member
      rcases List.mem_append.mp member with early | late
      · exact (below other early).trans worse
      · rcases List.mem_cons.mp late with rfl | later
        · exact worse
        · exact (within other later).trans_lt worse
    · next noWorse =>
      -- A tie is no reason to change, so the last element only has to be no more frequent.
      refine ⟨before, after ++ [last], ?_, below, ?_⟩
      · rw [← List.cons_append, whole, List.append_assoc, List.cons_append]
      · intro other member
        rcases List.mem_append.mp member with early | late
        · exact within other early
        · rw [List.mem_singleton.mp late]
          exact not_lt.mp noWorse

/-- Among elements that are counted by a function, the one that leads stands among them. -/
theorem Leads.exists_item {α : Type} {count : α → Nat} {items : List α} {best : α × Nat}
    (leads : Leads best (items.map fun item => (item, count item))) :
    ∃ before item after, items = before ++ item :: after ∧ best = (item, count item) ∧
      (∀ other ∈ before, count other < count item) ∧ ∀ other ∈ after, count other ≤ count item := by
  obtain ⟨before, after, whole, below, within⟩ := leads
  -- Each part of the counted elements comes from a part of the elements.
  obtain ⟨early, remaining, split, rfl, leading⟩ := List.map_eq_append_iff.mp whole
  obtain ⟨item, late, rfl, rfl, rfl⟩ := List.map_eq_cons_iff.mp leading
  exact ⟨early, item, late, split, rfl, List.forall_mem_map.mp below, List.forall_mem_map.mp within⟩

/--
An element is most frequent unless there is none.

No other element occurs more often, and of those that occur as often it is the first to occur.
-/
theorem exists_mostFrequent? {α : Type} [DecidableEq α] [BEq α] [LawfulBEq α] {items : List α}
    (nonempty : items ≠ []) :
    ∃ item ∈ items, mostFrequent? items = some (item, items.count item) ∧
      ∀ other ∈ items, items.count other ≤ items.count item ∧
        (items.count other = items.count item → items.idxOf item ≤ items.idxOf other) := by
  -- It does not matter by which test for equality the elements are counted.
  have counts : ∀ item, @List.count α instBEqOfDecidableEq item items = items.count item := by
    intro item
    congr
    exact lawful_beq_subsingleton _ _
  have occurs : ∀ item, item ∈ Distinct.ofList items ↔ item ∈ items := fun _ => Distinct.mem_ofList
  have order := Distinct.pairwise_ofList items
  -- Whatever occurs at all occurs for a first time.
  obtain ⟨sample, member⟩ := List.exists_mem_of_ne_nil items nonempty
  obtain ⟨first, rest, distinct⟩ :=
    List.exists_cons_of_ne_nil (List.ne_nil_of_mem ((occurs sample).mpr member))
  rw [distinct] at occurs order
  have leads : Leads _ ((first :: rest).map fun item => (item, items.count item)) :=
    leads_foldl_better (first, items.count first) (rest.map fun item => (item, items.count item))
  obtain ⟨before, item, after, split, best, below, within⟩ := leads.exists_item
  rw [split] at occurs order
  -- What stands behind the leading element occurs later.
  have behind := (List.pairwise_cons.mp (List.pairwise_append.mp order).2.1).1
  refine ⟨item, (occurs item).mp (by simp), ?_, ?_⟩
  · simp only [mostFrequent?, counts, distinct, List.map_cons, best]
  · intro other present
    rcases List.mem_append.mp ((occurs other).mpr present) with ahead | remains
    · -- What stands ahead of it is less frequent, so it does not tie.
      have less : items.count other < items.count item := below other ahead
      exact ⟨less.le, fun tie => absurd tie less.ne⟩
    · rcases List.mem_cons.mp remains with rfl | later
      · exact ⟨le_rfl, fun _ => le_rfl⟩
      · exact ⟨within other later, fun _ => (behind other later).le⟩

/-- The words for the most frequent tuple say which one it is and how often it occurs. -/
theorem exists_describeTop {tuples : List (List String)} (nonempty : tuples ≠ []) :
    ∃ tuple ∈ tuples,
      describeTop tuples =
        " ".intercalate tuple ++ " (" ++ toString (tuples.count tuple) ++ ")" ∧
      ∀ other ∈ tuples, tuples.count other ≤ tuples.count tuple ∧
        (tuples.count other = tuples.count tuple → tuples.idxOf tuple ≤ tuples.idxOf other) := by
  -- The scan for the most frequent tuple finds one, and that one is described.
  obtain ⟨tuple, member, found, most⟩ := exists_mostFrequent? nonempty
  exact ⟨tuple, member, by rw [describeTop, found], most⟩

/-- There are words for the most frequent tuple exactly if there is a tuple. -/
theorem describeTop_eq_empty_iff {tuples : List (List String)} :
    describeTop tuples = "" ↔ tuples = [] := by
  constructor
  · intro silent
    by_contra nonempty
    -- The words end with a bracket at least.
    obtain ⟨tuple, -, words, -⟩ := exists_describeTop nonempty
    have letters := congrArg String.toList (words.symm.trans silent)
    simp at letters
  · intro empty
    rw [empty]
    rfl

end Summary

/-- More hops reach no fewer nodes. -/
theorem Graph.ball_subset {graph : Graph} {center : Address} {near far : Nat}
    (closer : near ≤ far) : graph.ball center near ⊆ graph.ball center far := by
  -- The cast makes the comparison one of extended distances.
  intro address inside
  exact ⟨inside.1, inside.2.trans (by exact_mod_cast closer)⟩

namespace Features

variable {graph : Graph} {center : Address}

/-- What is recorded of a node are the nodes within the distance, but no more than thirty. -/
theorem length_nodes_entry (member : center ∈ graph.nodes) (distance label : Nat) :
    ((entry graph (center, distance) label).nodes.length : ℕ∞) =
      min 30 (graph.ball center distance).encard := by
  -- A request is served with the levels, cut off at the thirtieth node.
  have room : maxSubgraphNodes.toNat = 30 := by decide
  have nodes : (entry graph (center, distance) label).nodes =
      (graph.levels center distance).take 30 := by
    rw [entry, Generator.serve, Graph.neighbourhood_nodes, Graph.surroundings_eq member, room,
      Int.toNat_natCast]
  -- The levels hold the ball without repetition, so the count of the rest is that of the ball.
  rw [nodes, Graph.encard_ball member, List.length_take]
  exact_mod_cast rfl

/-- The largest neighbourhood is the largest one of the second round. -/
theorem largest_eq_iSup (graph : Graph) :
    (((((Generator.requestsFor graph.nodes).map fun request =>
        entry graph request request.2).map (·.nodes.length)).foldl max 0 : Nat) : ℕ∞) =
      ⨆ center ∈ graph.nodes, min 30 (graph.ball center 3).encard := by
  -- Both sides have the same upper bounds, so no node has to be named where they are attained.
  apply eq_of_forall_ge_iff
  intro bound
  rw [cast_foldl_max_le_iff, List.map_map, List.forall_mem_map]
  simp only [iSup_le_iff]
  constructor
  · intro bounds center member
    -- Every node is asked for with three hops, so its neighbourhood is among those compared.
    rw [← length_nodes_entry member 3 3]
    exact bounds.2 (center, 3) (Generator.mem_requestsFor.mpr ⟨member, Or.inr rfl⟩)
  · intro bounds
    refine ⟨by simp, ?_⟩
    intro request asked
    obtain ⟨center, distance⟩ := request
    obtain ⟨member, rounds⟩ := Generator.mem_requestsFor.mp asked
    -- A neighbourhood of the first round is within the one of the second round.
    have within : distance ≤ 3 := by
      rcases rounds with two | three <;> omega
    calc ((entry graph (center, distance) distance).nodes.length : ℕ∞)
        = min 30 (graph.ball center distance).encard := length_nodes_entry member distance distance
      _ ≤ min 30 (graph.ball center 3).encard :=
          min_le_min_left 30 (Set.encard_le_encard (Graph.ball_subset within))
      _ ≤ bound := bounds center member

end Features

namespace Flowgraph

/-- Edges that were added more than once are counted once. -/
theorem length_edges_build (edits : List Edit) :
    (build edits).edges.length = (edits.filterMap Edit.edge?).toFinset.card := by
  -- No edge is kept twice, so the list is as long as its set.
  rw [← List.toFinset_card_of_nodup (build edits).edges_distinct, edges_build]
  congr 1
  -- Membership is that of the edits, in whatever order they came.
  ext edge
  simp

/-- There are as many mnemonics as instructions in all blocks. -/
theorem length_mnemonics (function : Flowgraph) :
    function.mnemonics.length = (function.blocks.entries.map (·.2.length)).sum := by
  -- One mnemonic is taken of each instruction, block by block.
  rw [mnemonics, Blocks.instructions, List.length_map, List.length_flatMap]

end Flowgraph

/--
The summary of a function says how much there is of everything.

The largest neighbourhood is that of a node with three hops, or there is no node at all and it has
the size zero. What a summary says of any tuples is the one that occurs most often, of several such
ones the first, with its number; it says nothing where there are no tuples.
-/
theorem Summary.ofFeatures_counts (edits : List Edit) (name : Json) :
    let function := Flowgraph.build edits
    let instructions := (function.blocks.entries.map (·.2.length)).sum
    (∃ features,
      (Features.collect (Generator.new function) function.toGraph function.size).1 = .ok features ∧
      let summary := ofFeatures name function.toGraph features
      summary.nodes = function.nodes.length ∧
      summary.edges = (edits.filterMap Edit.edge?).toFinset.card ∧
      summary.subgraphs = 2 * function.nodes.length ∧
      summary.tuples = instructions - 2 ∧
      (summary.largestSubgraph : ℕ∞) =
        ⨆ center ∈ function.nodes, min 30 (function.ball center 3).encard) ∧
    ∀ (graph : Graph) (features : Features),
      let tuples := features.tuples
      let top := (ofFeatures name graph features).topTuple
      (top = "" ↔ tuples = []) ∧
      (tuples ≠ [] → ∃ tuple ∈ tuples,
        top = " ".intercalate tuple ++ " (" ++ toString (tuples.count tuple) ++ ")" ∧
        ∀ other ∈ tuples, tuples.count other ≤ tuples.count tuple ∧
          (tuples.count other = tuples.count tuple → tuples.idxOf tuple ≤ tuples.idxOf other)) := by
  intro function instructions
  refine ⟨⟨_, congrArg Prod.fst (Features.collect_new function), rfl, ?_, ?_, ?_, ?_⟩, ?_⟩
  · exact Flowgraph.length_edges_build edits
  · -- Each request is served by one neighbourhood, and there are two requests for each node.
    exact (List.length_map _).trans (Generator.length_requestsFor function.nodes)
  · -- A tuple starts at every mnemonic but the last two.
    have count : (function.ngrams 3).length = function.mnemonics.length + 1 - 3 :=
      function.length_ngrams 3
    rw [function.length_mnemonics] at count
    exact count
  · exact Features.largest_eq_iSup function.toGraph
  · intro graph features
    exact ⟨describeTop_eq_empty_iff, exists_describeTop⟩

/-- Two tuples that occur twice each, of which the first one is named. -/
theorem Summary.ofFeatures_counts_tie :
    let block : Block := ["a", "b", "a", "b", "a", "c", "a", "c", "a"].map (⟨·, []⟩)
    let edits : List Edit := [.node 4, .node 8, .edge (4, 8), .edge (8, 9), .edge (4, 8),
      .block 4 block]
    let function := Flowgraph.build edits
    ∃ features,
      (Features.collect (Generator.new function) function.toGraph function.size).1 = .ok features ∧
      let summary := ofFeatures .null function.toGraph features
      summary.edges = 2 ∧ summary.tuples = 7 ∧ features.tuples ≠ [] ∧
      summary.topTuple = "a b a (2)" ∧
      ∃ tuple ∈ features.tuples, summary.topTuple =
        " ".intercalate tuple ++ " (" ++ toString (features.tuples.count tuple) ++ ")" := by
  intro block edits function
  obtain ⟨⟨features, collected, -, edges, -, tuples, -⟩, named⟩ := ofFeatures_counts edits .null
  obtain ⟨-, most⟩ := named function.toGraph features
  -- The features are those of a generator that was just made.
  have fresh : (Features.collect (Generator.new function) function.toGraph function.size).1 = _ :=
    congrArg Prod.fst (Features.collect_new function)
  -- Nothing of the drained streams is missing, so the tuples are all of size three.
  have listed : features.tuples = function.ngrams 3 := by
    rw [Except.ok.inj (collected.symm.trans fresh)]
    rfl
  have nonempty : features.tuples ≠ [] := by
    rw [listed]
    decide +kernel
  have words : describeTop features.tuples = "a b a (2)" := by
    rw [listed]
    decide +kernel
  -- The general statement says of the named tuple that it is the one in front.
  obtain ⟨tuple, member, text, -⟩ := most nonempty
  exact ⟨features, collected, edges, tuples, nonempty, words, tuple, member, text⟩

end Flowprint
