import Flowprint.Proofs.Feature.Collection

/-!
Features can be collected with any node count, and the count decides how many labels there are.

A negative count turns the rounds around, and its first round consists of one place. Where there is
no label any more, the request is lost that was pulled for it.
-/

namespace Flowprint

namespace Features

variable {graph : Graph} {nodeCount : Int} {fault : Fault}

/-- Without nodes there is no round for any place. -/
theorem distanceAt_zero (position : Nat) : distanceAt position 0 = .error .zeroNodeCount := rfl

/-- A positive count has two rounds of places. -/
theorem distanceAt_of_pos (positive : 0 < nodeCount) (position : Nat) :
    distanceAt position nodeCount =
      if position < 2 * nodeCount.natAbs then
        .ok (if position < nodeCount.natAbs then 2 else 3)
      else .error .noDistance := by
  -- The count is a natural number, so the position is divided by it without any sign.
  obtain ⟨size, rfl⟩ := Int.eq_ofNat_of_zero_le (Int.le_of_lt positive)
  have some : 0 < size := by exact_mod_cast positive
  rw [Int.natAbs_natCast, distanceAt_natCast some]
  by_cases first : position < size
  · -- In the first round the quotient is zero.
    rw [Nat.div_eq_of_lt first, if_pos (by omega), if_pos first]
    rfl
  · by_cases second : position < 2 * size
    · -- In the second round the quotient is one.
      have round : position / size = 1 := Nat.div_eq_of_lt_le (by omega) (by omega)
      rw [round, if_pos second, if_neg first]
      rfl
    · -- There is no third round.
      have beyond : 2 ≤ position / size := (Nat.le_div_iff_mul_le some).mpr (by omega)
      have none : subgraphDistances[position / size]? = none :=
        List.getElem?_eq_none (by simpa [subgraphDistances] using beyond)
      rw [none, if_neg second]
      rfl

/-- Among a negative number of nodes the rounds go down by one behind so many places each. -/
theorem le_fdiv_iff (negative : nodeCount < 0) (position : Nat) (round : Int) :
    round ≤ (position : Int).fdiv nodeCount ↔ (position : Int) ≤ round * nodeCount := by
  -- Both signs are turned around, and then the quotient is that of a positive count.
  have turned : (position : Int).fdiv nodeCount = -position / -nodeCount := by
    rw [← Int.neg_fdiv_neg, Int.fdiv_eq_ediv_of_nonneg _ (by omega)]
  rw [turned, Int.le_ediv_iff_mul_le (by omega), Int.mul_neg]
  omega

/-- A negative count has one place in the first round, and two rounds of places behind it. -/
theorem distanceAt_of_neg (negative : nodeCount < 0) (position : Nat) :
    distanceAt position nodeCount =
      if position < 2 * nodeCount.natAbs + 1 then
        .ok (if position = 0 ∨ nodeCount.natAbs < position then 2 else 3)
      else .error .noDistance := by
  -- The quotient is bracketed between the rounds that it could be in.
  have zero := le_fdiv_iff negative position 0
  have one := le_fdiv_iff negative position 1
  have last := le_fdiv_iff negative position (-1)
  have lastButOne := le_fdiv_iff negative position (-2)
  rw [distanceAt, if_neg (Int.ne_of_lt negative)]
  dsimp only
  generalize (position : Int).fdiv nodeCount = round at zero one last lastButOne ⊢
  by_cases center : position = 0
  · -- The first place of all is divided without a rest.
    obtain rfl : round = 0 := by omega
    rw [if_pos (show position < 2 * nodeCount.natAbs + 1 by omega), if_pos (Or.inl center)]
    rfl
  · by_cases near : position ≤ nodeCount.natAbs
    · -- The quotient is rounded down, so the next places fall into round -1.
      obtain rfl : round = -1 := by omega
      have second : ¬(position = 0 ∨ nodeCount.natAbs < position) := by omega
      rw [if_pos (show position < 2 * nodeCount.natAbs + 1 by omega), if_neg second]
      rfl
    · by_cases far : position < 2 * nodeCount.natAbs + 1
      · -- One round further down, the label is counted from the end a second time.
        obtain rfl : round = -2 := by omega
        rw [if_pos far, if_pos (Or.inr (Nat.lt_of_not_le near))]
        rfl
      · -- The rounds -3 and below are not counted from the end any more.
        have beyond : round < -2 := by omega
        have still : round + (subgraphDistances.length : Int) < 0 := by
          simp only [subgraphDistances, List.length_cons, List.length_nil]
          omega
        simp only [if_pos (show round < 0 by omega), if_pos still, if_neg far]

/-- If there is no distance for some place, then the requests up to that place are lost. -/
theorem label_of_fault (requests : List (Address × Nat)) (position place : Nat)
    (labelled : ∀ earlier < place, ∃ distance,
      distanceAt (position + earlier) nodeCount = .ok distance)
    (unlabelled : distanceAt (position + place) nodeCount = .error fault)
    (inside : place < requests.length) :
    label graph nodeCount position requests = (.error fault, requests.drop (place + 1)) := by
  -- Behind the first request the positions go on by one.
  induction requests generalizing position place with
  | nil => cases inside
  | cons request rest ih =>
    cases place with
    -- The first request is the one without a distance, and it is lost with its place.
    | zero =>
      rw [Nat.add_zero] at unlabelled
      rw [label, unlabelled]
      rfl
    | succ place =>
      -- The first request has a distance, and the place in question is one nearer behind it.
      obtain ⟨distance, head⟩ := labelled 0 (Nat.succ_pos place)
      rw [Nat.add_zero] at head
      have tail := ih (position + 1) place
        (fun earlier before => by
          rw [Nat.add_right_comm]
          exact labelled (earlier + 1) (Nat.succ_lt_succ before))
        (by rwa [Nat.add_right_comm])
        (Nat.lt_of_succ_lt_succ inside)
      rw [label, head, tail, List.drop_succ_cons]

end Features

namespace Workspace

open Features

/--
Collecting broke off: so many requests are lost, and nothing else in the workspace has changed.

The requests that are left are served afterwards as if the others had never been there.
-/
structure BrokeOff (workspace : Workspace) (index : Nat) (generator : Generator) (graph : Graph)
    (collected : Workspace × Reply) (lost : Nat) (fault : Fault) : Prop where
  /-- The call has no result. -/
  reply : collected.2 = .fault fault
  /-- As many requests were there as are lost. -/
  enough : lost ≤ generator.requests.length
  /-- The tuples and all other requests are still to come. -/
  left : collected.1 =
    workspace.setGenerator index ⟨generator.requests.drop lost, generator.tuples⟩
  /-- No function has changed. -/
  subjects : collected.1.subjects = workspace.subjects
  /-- The requests that are left are served in their order. -/
  served : (collected.1.act (.takeSubgraphs index none)).2 = .subgraphs
    ((generator.requests.drop lost).map fun request => (Generator.serve graph request, request.1))

/-- Collecting came to its end: every request has an entry, and nothing is left to come. -/
structure Completed (workspace : Workspace) (index : Nat) (generator : Generator) (graph : Graph)
    (collected : Workspace × Reply) (distance : Nat → Nat) : Prop where
  /-- The entry at each place is for the request there, with the distance of the place. -/
  reply : collected.2 = .features ⟨generator.requests.mapIdx fun place request =>
    entry graph request (distance place), generator.tuples⟩
  /-- Both streams of the generator are drained. -/
  left : collected.1 = workspace.setGenerator index ⟨[], []⟩
  /-- No function has changed. -/
  subjects : collected.1.subjects = workspace.subjects

variable {workspace : Workspace} {number index : Nat} {generator : Generator} {subject : Subject}
  {nodeCount : Int} {fault : Fault}

section

variable (standing : workspace.generators[index]? = some (number, generator))
  (found : workspace.subjects[number]? = some subject)

include standing found

/-- If some place is the first one without a distance, collecting breaks off behind its request. -/
theorem brokeOff_of_fault (place : Nat)
    (labelled : ∀ earlier < place, ∃ distance, distanceAt earlier nodeCount = .ok distance)
    (unlabelled : distanceAt place nodeCount = .error fault)
    (inside : place < generator.requests.length) :
    BrokeOff workspace index generator subject.graph (workspace.act (.collect index nodeCount))
      (place + 1) fault := by
  -- The requests are used up to the place, and the tuples are not touched.
  have broken : collect generator subject.graph nodeCount =
      (.error fault, ⟨generator.requests.drop (place + 1), generator.tuples⟩) := by
    rw [collect, label_of_fault _ 0 place (by simpa using labelled) (by simpa using unlabelled)
      inside]
  -- What is left of the generator is what stands in the workspace.
  have answered : workspace.act (.collect index nodeCount) = (workspace.setGenerator index
      ⟨generator.requests.drop (place + 1), generator.tuples⟩, .fault fault) := by
    rw [act, ask_eq standing found, broken]
  rw [answered]
  refine ⟨rfl, inside, rfl, rfl, ?_⟩
  -- The generator stands where it was, and it has the rest of the requests.
  have still := generators_setGenerator standing
    ⟨generator.requests.drop (place + 1), generator.tuples⟩
  rw [act, ask_eq still (show (workspace.setGenerator index _).subjects[number]? = _ from found)]
  simp only [Generator.takeSubgraphs, Option.getD_none, List.take_length]

/-- If every place has a distance, collecting comes to its end. -/
theorem completed_of_labelled (distance : Nat → Nat)
    (labelled : ∀ place < generator.requests.length,
      distanceAt place nodeCount = .ok (distance place)) :
    Completed workspace index generator subject.graph
      (workspace.act (.collect index nodeCount)) distance := by
  -- All requests are used, and each of them is labelled with the distance of its place.
  have complete : collect generator subject.graph nodeCount =
      (.ok ⟨generator.requests.mapIdx fun place request =>
        entry subject.graph request (distance place), generator.tuples⟩, ⟨[], []⟩) := by
    rw [collect, label_eq _ 0 fun place _ => distance place]
    intro place request listed
    rw [Nat.zero_add]
    exact labelled place (List.getElem?_eq_some_iff.mp listed).1
  -- So the answer is the features, whatever the workspace holds besides.
  rw [act, ask_eq standing found, complete]
  exact ⟨rfl, rfl, rfl⟩

end

/--
Whether collecting breaks off is decided by the node count and the number of requests.

No request needs no label. Otherwise there are no labels without nodes, two rounds of them with a
positive count, and one more with a negative count.
-/
theorem collect_any_count (standing : workspace.generators[index]? = some (number, generator))
    (found : workspace.subjects[number]? = some subject) (nodeCount : Int) :
    let collected := workspace.act (.collect index nodeCount)
    let brokeOff := BrokeOff workspace index generator subject.graph collected
    let completed := Completed workspace index generator subject.graph collected
    let requests := generator.requests.length
    let size := nodeCount.natAbs
    (requests = 0 → ∀ distance, completed distance) ∧
    (nodeCount = 0 → 0 < requests → brokeOff 1 .zeroNodeCount) ∧
    (0 < nodeCount →
      if 2 * size < requests then brokeOff (2 * size + 1) .noDistance
      else completed fun place => if place < size then 2 else 3) ∧
    (nodeCount < 0 →
      if 2 * size + 1 < requests then brokeOff (2 * size + 2) .noDistance
      else completed fun place => if place = 0 ∨ size < place then 2 else 3) := by
  intro collected brokeOff completed requests size
  refine ⟨?_, ?_, ?_, ?_⟩
  · -- There is no request, so there is no place either.
    intro none distance
    refine completed_of_labelled standing found distance fun place inside => ?_
    exact absurd inside (by omega)
  · -- A count of zero cannot be divided by, which the first request finds out.
    rintro rfl some
    exact brokeOff_of_fault standing found 0 (by simp) (distanceAt_zero 0) some
  · -- There are two rounds of places, and the first place behind them has no distance.
    intro positive
    have labels := distanceAt_of_pos positive
    split_ifs with more
    · -- More requests than places: the first of them that is beyond breaks the collecting off.
      refine brokeOff_of_fault standing found (2 * size) (fun earlier before => ?_) ?_ more
      · exact ⟨_, (labels earlier).trans (if_pos before)⟩
      · exact (labels _).trans (if_neg (lt_irrefl _))
    · -- Every request is inside the two rounds.
      refine completed_of_labelled standing found _ fun place inside => ?_
      exact (labels place).trans (if_pos (by omega))
  · -- One place comes in front of the two rounds, since division rounds down.
    intro negative
    have labels := distanceAt_of_neg negative
    split_ifs with more
    · -- More requests than places, so the one right behind them has no distance.
      refine brokeOff_of_fault standing found (2 * size + 1) (fun earlier before => ?_) ?_ more
      · exact ⟨_, (labels earlier).trans (if_pos before)⟩
      · exact (labels _).trans (if_neg (lt_irrefl _))
    · -- Every request is at a place with a distance.
      refine completed_of_labelled standing found _ fun place inside => ?_
      exact (labels place).trans (if_pos (by omega))

/-- Three nodes and the count -1: of the six requests four are lost, and the last two are served. -/
theorem collect_any_count_negative :
    let function := Flowgraph.build [.node 1, .node 2, .node 3, .edge (2, 3),
      .block 1 [⟨"a", []⟩, ⟨"b", []⟩, ⟨"c", []⟩]]
    let generator := Generator.new function
    let workspace : Workspace := ⟨[.coded function], [(0, generator)]⟩
    workspace.generators[0]? = some (0, generator) ∧
    workspace.subjects[0]? = some (.coded function) ∧
    BrokeOff workspace 0 generator function.toGraph (workspace.act (.collect 0 (-1))) 4
      .noDistance ∧
    generator.requests.drop 4 = [(2, 3), (3, 3)] ∧ generator.tuples = [["a", "b", "c"]] := by
  intro function generator workspace
  have standing : workspace.generators[0]? = some (0, generator) := rfl
  have found : workspace.subjects[0]? = some (.coded function) := rfl
  obtain ⟨-, -, -, negative⟩ := collect_any_count standing found (-1)
  -- The requests are counted, and the negative case of the theorem is read off.
  have requests : generator.requests.length = 6 := by decide +kernel
  have broken := negative (by decide)
  rw [requests, if_pos (by decide)] at broken
  exact ⟨standing, found, broken, by decide +kernel, by decide +kernel⟩

end Workspace

end Flowprint
