import Flowprint.Proofs.Workspace.Frame

/-!
The label of a collected neighbourhood is the distance with which it was cut out.

The label is worked out from the position and a node count, and the distance is part of the
request, so the two agree only because each round of requests goes through all nodes.
-/

namespace Flowprint

namespace Generator

/-- A generator asks for each node with two hops and with three. -/
theorem mem_requestsFor {nodes : List Address} {request : Address × Nat} :
    request ∈ requestsFor nodes ↔ request.1 ∈ nodes ∧ (request.2 = 2 ∨ request.2 = 3) := by
  obtain ⟨center, distance⟩ := request
  rw [requestsFor_eq]
  simp only [List.mem_append, List.mem_map, Prod.mk.injEq]
  -- The first round asks with two hops and the second round with three.
  constructor
  · intro asked
    -- A request of either round is about a node.
    rcases asked with ⟨node, member, rfl, rfl⟩ | ⟨node, member, rfl, rfl⟩
    · exact ⟨member, Or.inl rfl⟩
    · exact ⟨member, Or.inr rfl⟩
  · intro asked
    rcases asked with ⟨member, rfl | rfl⟩
    · -- A node is asked for in the round of its distance.
      exact Or.inl ⟨center, member, rfl, rfl⟩
    · exact Or.inr ⟨center, member, rfl, rfl⟩

/-- The request at a place is for the node at that place of its round. -/
theorem getElem?_requestsFor {nodes : List Address} {place : Nat}
    (inside : place < 2 * nodes.length) :
    ∃ center, nodes[place % nodes.length]? = some center ∧
      (requestsFor nodes)[place]? = some (center, if place < nodes.length then 2 else 3) := by
  rw [requestsFor_eq]
  by_cases first : place < nodes.length
  · -- In the first round places are places of nodes.
    have early : place < (nodes.map ((·, 2) : Address → Address × Nat)).length := by simpa
    refine ⟨nodes[place], by simp [Nat.mod_eq_of_lt first], ?_⟩
    rw [List.getElem?_append_left early, if_pos first]
    simp [first]
  · -- The second round starts where the nodes have been gone through once.
    have late : (nodes.map ((·, 2) : Address → Address × Nat)).length ≤ place := by
      rw [List.length_map]
      omega
    have within : place - nodes.length < nodes.length := by omega
    have wrapped : place % nodes.length = place - nodes.length := by
      rw [Nat.mod_eq_sub_mod (by omega), Nat.mod_eq_of_lt within]
    refine ⟨nodes[place - nodes.length], by simp [wrapped, within], ?_⟩
    rw [List.getElem?_append_right late, if_neg first]
    simp [within]

end Generator

namespace Features

open Generator

/-- Among some nodes the round of a position is its quotient, and it decides the distance. -/
theorem distanceAt_natCast {nodeCount : Nat} (positive : 0 < nodeCount) (position : Nat) :
    distanceAt position nodeCount =
      (subgraphDistances[position / nodeCount]?).elim (.error .noDistance) .ok := by
  have divisible : (nodeCount : Int) ≠ 0 := by omega
  -- No quotient of natural numbers is negative, so no round is counted from the end.
  have quotient : (position : Int).fdiv nodeCount = ((position / nodeCount : Nat) : Int) := by
    rw [Int.fdiv_eq_ediv_of_nonneg _ (Int.natCast_nonneg nodeCount), Int.natCast_ediv]
  generalize position / nodeCount = round at quotient ⊢
  have forward : ¬(round : Int) < 0 := Int.not_lt.mpr (Int.natCast_nonneg round)
  simp only [distanceAt, if_neg divisible, quotient, if_neg forward, Int.toNat_natCast]
  cases subgraphDistances[round]? <;> rfl

/-- The label of a place is the distance of the request at that place. -/
theorem distanceAt_requestsFor {nodes : List Address} {place : Nat} {request : Address × Nat}
    (listed : (requestsFor nodes)[place]? = some request) :
    distanceAt place nodes.length = .ok request.2 := by
  -- A place with a request is one of the two rounds.
  have inside : place < 2 * nodes.length := by
    have bound := (List.getElem?_eq_some_iff.mp listed).1
    rwa [length_requestsFor] at bound
  obtain ⟨center, -, found⟩ := getElem?_requestsFor inside
  obtain rfl : (center, _) = request := Option.some.inj (found.symm.trans listed)
  rw [distanceAt_natCast (by omega)]
  -- The round is the first one or the second one.
  by_cases first : place < nodes.length
  · rw [Nat.div_eq_of_lt first, if_pos first]
    rfl
  · have second : place / nodes.length = 1 := Nat.div_eq_of_lt_le (by omega) (by omega)
    rw [second, if_neg first]
    rfl

/-- If there is a distance for every place, then no label fails. -/
theorem label_eq {graph : Graph} {nodeCount : Int} (requests : List (Address × Nat))
    (position : Nat) (distance : Nat → Address × Nat → Nat)
    (labelled : ∀ (place : Nat) (request : Address × Nat), requests[place]? = some request →
      distanceAt (position + place) nodeCount = .ok (distance place request)) :
    label graph nodeCount position requests =
      (.ok (requests.mapIdx fun place request => entry graph request (distance place request)),
        []) := by
  -- Behind the first request the positions go on by one.
  induction requests generalizing position distance with
  | nil => rfl
  | cons request rest ih =>
    have head : distanceAt position nodeCount = .ok (distance 0 request) :=
      labelled 0 request rfl
    have tail := ih (position + 1) (fun place => distance (place + 1)) fun place other listed => by
      rw [Nat.add_right_comm]
      exact labelled (place + 1) other listed
    rw [label, head, tail, List.mapIdx_cons]

/-- Collecting from a generator that was just made labels every request with its own distance. -/
theorem collect_new (function : Flowgraph) :
    collect (Generator.new function) function.toGraph function.size =
      (.ok ⟨(requestsFor function.nodes).map fun request =>
          entry function.toGraph request request.2, function.ngrams mnemonicTupleSize⟩,
        ⟨[], []⟩) := by
  -- The labels are told place by place for all requests.
  have labels : label function.toGraph function.size 0 (requestsFor function.nodes) =
      (.ok ((requestsFor function.nodes).map fun request =>
        entry function.toGraph request request.2), []) := by
    rw [label_eq _ 0 fun _ request => request.2]
    · -- The distance is a part of the request, whatever its place is.
      congr 2
      refine List.ext_getElem? fun place => ?_
      rw [List.getElem?_mapIdx, List.getElem?_map]
    · intro place request listed
      rw [Nat.zero_add]
      exact distanceAt_requestsFor listed
  -- Nothing is left to be asked for, and the tuples are handed out as they are.
  rw [collect, Generator.new, labels]

end Features

namespace Workspace

variable {workspace : Workspace} {number : Nat} {function : Flowgraph}

/--
The features of a function are collected without fail, and each label is the distance in use.

The neighbourhoods of the first round have two hops and those of the second round have three.
Nothing is left in the generator afterwards, and the function is what it was.
-/
theorem collect_generated (coded : workspace.subjects[number]? = some (.coded function)) :
    let index := workspace.generators.length
    let start := (workspace.act (.generate number)).1
    let collected := start.act (.collect index function.size)
    ∃ features, collected.2 = .features features ∧
      features.subgraphs.length = 2 * function.size ∧
      (∀ place < 2 * function.size, ∃ center,
        function.nodes[place % function.size]? = some center ∧
        let distance : Nat := if place < function.size then 2 else 3
        let subgraph := function.neighbourhood center distance 30
        features.subgraphs[place]? = some ⟨center, distance, subgraph.nodes, subgraph.edges⟩) ∧
      features.tuples = function.ngrams 3 ∧
      Features.ofFunction function = .ok features ∧
      (∃ left, collected.1.generators[index]? = some (number, left) ∧
        left.hasSubgraphs = false ∧ left.hasTuples = false) ∧
      collected.1.subjects = workspace.subjects := by
  intro index start collected
  -- Making a generator adds it behind all others and changes nothing else.
  have made : start = { workspace with
      generators := workspace.generators ++ [(number, Generator.new function)] } :=
    congrArg Prod.fst (act_generate coded)
  -- So the new generator is the last one, and its subject is the function.
  have standing : start.generators[index]? = some (number, Generator.new function) := by
    rw [made]
    exact List.getElem?_concat_length
  have found : start.subjects[number]? = some (.coded function) := by
    rw [made]
    exact coded
  -- The generator is asked with the function as it was when the generator was made.
  have answered : collected = (start.setGenerator index ⟨[], []⟩, .features
      ⟨(Generator.requestsFor function.nodes).map fun request =>
        Features.entry function.toGraph request request.2, function.ngrams 3⟩) := by
    have fresh := Features.collect_new function
    simp only [collected, act, ask_eq standing found, Subject.graph, fresh]
    rfl
  rw [answered]
  refine ⟨_, rfl, ?_, ?_, rfl, ?_, ?_, ?_⟩
  · -- There are two requests for each node.
    rw [List.length_map]
    exact Generator.length_requestsFor function.nodes
  · -- At each place of the two rounds stands the request that was made there.
    intro place inside
    obtain ⟨center, node, listed⟩ := Generator.getElem?_requestsFor inside
    refine ⟨center, node, ?_⟩
    rw [List.getElem?_map, listed]
    rfl
  · -- A function is summarised by the features of a new generator, too.
    rw [Features.ofFunction, Features.collect_new]
    rfl
  · -- The generator is there still, with nothing left.
    exact ⟨⟨[], []⟩, generators_setGenerator standing _, rfl, rfl⟩
  · -- Collecting changes no subject.
    rw [made]
    rfl

/--
A chain of four nodes, of which the first neighbourhood of the second round reaches the last.

The neighbourhood of the same node in the first round stops one hop before it.
-/
theorem collect_generated_chain :
    let function := Flowgraph.build [.node 1, .node 2, .node 3, .node 4, .edge (1, 2),
      .edge (2, 3), .edge (3, 4), .block 2 [⟨"a", []⟩, ⟨"b", []⟩, ⟨"c", []⟩, ⟨"d", []⟩]]
    let workspace : Workspace := ⟨[.coded function], []⟩
    let start := (workspace.act (.generate 0)).1
    workspace.subjects[0]? = some (.coded function) ∧
    ∃ features, (start.act (.collect 0 function.size)).2 = .features features ∧
      features.subgraphs.length = 8 ∧
      features.subgraphs[0]? = some ⟨1, 2, [1, 2, 3], [(1, 2), (2, 3)]⟩ ∧
      features.subgraphs[4]? = some ⟨1, 3, [1, 2, 3, 4], [(1, 2), (2, 3), (3, 4)]⟩ ∧
      features.tuples = [["a", "b", "c"], ["b", "c", "d"]] := by
  intro function workspace start
  have coded : workspace.subjects[0]? = some (.coded function) := rfl
  obtain ⟨features, collected, count, labelled, tuples, -⟩ := collect_generated coded
  -- The sizes are computed, and all else is read off the theorem.
  have size : function.size = 4 := by decide +kernel
  have tupled : function.ngrams 3 = [["a", "b", "c"], ["b", "c", "d"]] := by decide +kernel
  rw [size] at count labelled
  refine ⟨coded, features, collected, count, ?_, ?_, tuples.trans tupled⟩
  · -- The first entry of each round is that of the first node.
    obtain ⟨center, node, recorded⟩ := labelled 0 (by decide)
    obtain rfl : 1 = center := Option.some.inj node
    exact recorded.trans (by decide +kernel)
  · obtain ⟨center, node, recorded⟩ := labelled 4 (by decide)
    obtain rfl : 1 = center := Option.some.inj node
    exact recorded.trans (by decide +kernel)

end Workspace

end Flowprint
