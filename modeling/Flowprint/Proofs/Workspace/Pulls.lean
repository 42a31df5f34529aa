import Flowprint.Proofs.Graph.Levels
import Flowprint.Proofs.Workspace.Frame

/-!
What is pulled out of a generator, along any series of actions.

The requests and the tuples are those of the function at the time when the generator was made, but
each request is served with the function as it is at the time of the pull.
-/

namespace Flowprint

/-- The subgraphs that a reply hands out, each with its center. -/
def Reply.subgraphsOf : Reply → List (Graph × Address)
  | .subgraphs pulled => pulled
  | _ => []

/-- The mnemonic tuples that a reply hands out. -/
def Reply.tuplesOf : Reply → List (List String)
  | .tuples pulled => pulled
  | _ => []

/-- How many subgraphs an action asks for, of so many that are left. -/
def Action.subgraphsWanted (left : Nat) : Action → Nat
  | .nextSubgraph _ => 1
  | .takeSubgraphs _ count => count.getD left
  | _ => 0

/-- How many mnemonic tuples an action asks for, of so many that are left. -/
def Action.tuplesWanted (left : Nat) : Action → Nat
  | .nextTuple _ => 1
  | .takeTuples _ count => count.getD left
  | _ => 0

namespace Workspace

open Generator

/-- What an action pulls out of a generator, which is nothing if it does not ask that one. -/
def pulled {α : Type} (workspace : Workspace) (read : Reply → List α) (index : Nat)
    (action : Action) : List α :=
  if action.asked? = some index then read (workspace.act action).2 else []

/-- All pulls out of a generator along a series of actions, each with the workspace before it. -/
def pulls {α : Type} (workspace : Workspace) (read : Reply → List α) (index : Nat) :
    List Action → List (Workspace × α)
  | [] => []
  | action :: rest =>
    (workspace.pulled read index action).map (workspace, ·) ++
      (workspace.act action).1.pulls read index rest

variable {workspace : Workspace} {number index : Nat} {function : Flowgraph}
  {generator : Generator} {action : Action}

/-- One more action is done in the workspace that the actions before it have left. -/
theorem actAll_concat (workspace : Workspace) (actions : List Action) (action : Action) :
    (workspace.actAll (actions ++ [action])).1 = ((workspace.actAll actions).1.act action).1 := by
  -- The rest of the actions starts from the workspace after the first one.
  induction actions generalizing workspace with
  | nil => rfl
  | cons first rest ih => exact ih (workspace.act first).1

/-- One more action pulls out of what the actions before it have left. -/
theorem pulls_concat {α : Type} (workspace : Workspace) (read : Reply → List α) (index : Nat)
    (actions : List Action) (action : Action) :
    workspace.pulls read index (actions ++ [action]) =
      workspace.pulls read index actions ++
        ((workspace.actAll actions).1.pulled read index action).map
          ((workspace.actAll actions).1, ·) := by
  -- The actions in front leave the workspace in which the last one pulls.
  induction actions generalizing workspace with
  | nil => simp [pulls, actAll]
  | cons first rest ih =>
    rw [List.cons_append, pulls, ih, pulls, List.append_assoc]
    rfl

/--
A question to a generator takes out of it what is wanted, in order, and leaves the rest.

Collecting all features is another matter, since a label that fails loses what was pulled for it.
-/
theorem act_asked {now : Flowgraph} (asked : action.asked? = some index)
    (uncollected : ∀ nodeCount, action ≠ .collect index nodeCount)
    (standing : workspace.generators[index]? = some (number, generator))
    (found : workspace.subjects[number]? = some (.coded now)) :
    let served := action.subgraphsWanted generator.requests.length
    let told := action.tuplesWanted generator.tuples.length
    (workspace.act action).1 = workspace.setGenerator index
        ⟨generator.requests.drop served, generator.tuples.drop told⟩ ∧
      (workspace.act action).2.subgraphsOf = (generator.requests.take served).map
        (fun request => (serve now.toGraph request, request.1)) ∧
      (workspace.act action).2.tuplesOf = generator.tuples.take told := by
  obtain ⟨requests, tuples⟩ := generator
  cases action with
  | nextSubgraph other =>
    obtain rfl : other = index := Option.some.inj asked
    rw [act, ask_eq standing found]
    -- A generator without requests stays as it is.
    cases requests <;> exact ⟨rfl, rfl, rfl⟩
  | nextTuple other =>
    obtain rfl : other = index := Option.some.inj asked
    rw [act, ask_eq standing found]
    cases tuples <;> exact ⟨rfl, rfl, rfl⟩
  -- A number of requests is taken at once, and the others are left.
  | takeSubgraphs other count =>
    obtain rfl : other = index := Option.some.inj asked
    rw [act, ask_eq standing found]
    exact ⟨rfl, rfl, rfl⟩
  | takeTuples other count =>
    obtain rfl : other = index := Option.some.inj asked
    rw [act, ask_eq standing found]
    exact ⟨rfl, rfl, rfl⟩
  -- Collecting has been ruled out.
  | collect other nodeCount =>
    obtain rfl : other = index := Option.some.inj asked
    exact absurd rfl (uncollected nodeCount)
  | _ => cases asked

/-- A pull has served a request with the function as it was at that moment. -/
def Serves (number : Nat) (nodes : List Address) (request : Address × Nat)
    (pull : Workspace × (Graph × Address)) : Prop :=
  ∃ now, pull.1.subjects[number]? = some (.coded now) ∧ nodes ⊆ now.nodes ∧
    pull.2 = (serve now.toGraph request, request.1)

/--
A generator has been at work for a while.

What it has handed out and what it has left make up what it was made with.
-/
structure Underway (number : Nat) (function : Flowgraph) (index : Nat)
    (subgraphs : List (Workspace × (Graph × Address))) (tuples : List (Workspace × List String))
    (left : Generator) (workspace : Workspace) : Prop where
  /-- The function is still there, with all of its nodes. -/
  has : workspace.Has number function.nodes
  /-- This is what is left. -/
  standing : workspace.generators[index]? = some (number, left)
  /-- The requests that were served came before those that are left. -/
  requests : ∃ served, served ++ left.requests = requestsFor function.nodes ∧
    List.Forall₂ (Serves number function.nodes) served subgraphs
  /-- The tuples that were handed out came before those that are left. -/
  tuples : tuples.map (·.2) ++ left.tuples = function.ngrams mnemonicTupleSize

/-- A generator that was just made has everything left. -/
theorem underway_generate (coded : workspace.subjects[number]? = some (.coded function)) :
    Underway number function workspace.generators.length [] [] (Generator.new function)
      (workspace.act (.generate number)).1 := by
  -- Nothing has been pulled yet, and the function is the one of the moment.
  rw [act_generate coded]
  refine ⟨⟨function, coded, List.Subset.refl _⟩, ?_, ⟨[], rfl, .nil⟩, rfl⟩
  exact List.getElem?_concat_length

variable {subgraphs : List (Workspace × (Graph × Address))}
  {tuples : List (Workspace × List String)} {left : Generator}

/-- One action takes what it pulls from the front of what is left. -/
theorem Underway.act (underway : Underway number function index subgraphs tuples left workspace)
    (action : Action) (uncollected : ∀ nodeCount, action ≠ .collect index nodeCount) :
    ∃ rest, Underway number function index
      (subgraphs ++ (workspace.pulled Reply.subgraphsOf index action).map (workspace, ·))
      (tuples ++ (workspace.pulled Reply.tuplesOf index action).map (workspace, ·))
      rest (workspace.act action).1 := by
  obtain ⟨has, standing, ⟨served, requests, serves⟩, told⟩ := underway
  -- Whatever is done, the function stays and loses no node.
  have kept := has.act action
  obtain ⟨now, found, within⟩ := has
  by_cases asked : action.asked? = some index
  · obtain ⟨after, handed, named⟩ := act_asked asked uncollected standing found
    generalize action.subgraphsWanted left.requests.length = more,
      action.tuplesWanted left.tuples.length = words at after handed named
    refine ⟨⟨left.requests.drop more, left.tuples.drop words⟩, kept, ?_,
      ⟨served ++ left.requests.take more, ?_, ?_⟩, ?_⟩
    · -- The new generator has what is behind the pulled requests and tuples.
      rw [after]
      exact generators_setGenerator standing _
    · rw [List.append_assoc, List.take_append_drop]
      exact requests
    · -- Each request that is taken is served in the workspace before the action.
      rw [pulled, if_pos asked, handed, List.map_map]
      refine List.rel_append serves (List.forall₂_map_right_iff.mpr (List.forall₂_same.mpr ?_))
      intro request _
      exact ⟨now, found, within, rfl⟩
    · -- The tuples that are handed out come from the front of those that were left.
      rw [pulled, if_pos asked, named, List.map_append, List.map_map, List.append_assoc]
      simpa using told
  · -- Any other action leaves the generator as it was.
    have inside : index < workspace.generators.length := (List.getElem?_eq_some_iff.mp standing).1
    refine ⟨left, kept, ?_, ⟨served, requests, ?_⟩, ?_⟩
    · rw [generators_act inside asked, standing]
    · simpa [pulled, asked] using serves
    · simpa [pulled, asked] using told

/-- Along any actions a generator hands out from the front what it was made with. -/
theorem Underway.actAll {start : Workspace} {first : Generator} (actions : List Action)
    (underway : Underway number function index [] [] first start)
    (uncollected : ∀ nodeCount, .collect index nodeCount ∉ actions) :
    ∃ left, Underway number function index (start.pulls Reply.subgraphsOf index actions)
      (start.pulls Reply.tuplesOf index actions) left (start.actAll actions).1 := by
  -- The last action is done in the workspace that the others have left.
  induction actions using List.reverseRecOn with
  | nil => exact ⟨first, underway⟩
  | append_singleton actions action ih =>
    obtain ⟨left, before⟩ := ih fun nodeCount member =>
      uncollected nodeCount (List.mem_append_left _ member)
    rw [actAll_concat, pulls_concat, pulls_concat]
    apply before.act action
    intro nodeCount same
    exact uncollected nodeCount (by simp [same])

/-- Requests that were served and requests that are left are two for every node. -/
theorem Underway.count_requests
    (underway : Underway number function index subgraphs tuples left workspace) :
    subgraphs.length + left.requests.length = 2 * function.nodes.length := by
  -- Each pull has served one request, so they are counted as one.
  obtain ⟨served, requests, serves⟩ := underway.requests
  have same : served.length = subgraphs.length := serves.length_eq
  rw [← same, ← List.length_append, requests, length_requestsFor]

/-- Tuples that were handed out and tuples that are left are all tuples. -/
theorem Underway.count_tuples
    (underway : Underway number function index subgraphs tuples left workspace) :
    tuples.length + left.tuples.length = (function.ngrams mnemonicTupleSize).length := by
  -- What was handed out and what is left make up the list.
  rw [← underway.tuples, List.length_append, List.length_map]

/-- Every pull so far has served the request at its place, and its center is a node of it. -/
theorem Underway.served
    (underway : Underway number function index subgraphs tuples left workspace) {place : Nat}
    {pull : Workspace × (Graph × Address)} (found : subgraphs[place]? = some pull) :
    ∃ now request, pull.1.subjects[number]? = some (.coded now) ∧
      (requestsFor function.nodes)[place]? = some request ∧
      pull.2 = (serve now.toGraph request, request.1) ∧
      (serve now.toGraph request).nodes.head? = some request.1 := by
  -- The pulls match the requests that were served, one by one.
  obtain ⟨served, requests, serves⟩ := underway.requests
  obtain ⟨inside, rfl⟩ := List.getElem?_eq_some_iff.mp found
  have earlier : place < served.length := serves.length_eq ▸ inside
  obtain ⟨now, standing, within, same⟩ := serves.get earlier inside
  -- The request was made for a node, and no node has been lost since.
  have listed : (requestsFor function.nodes)[place]? = some served[place] := by
    rw [← requests, List.getElem?_append_left earlier, List.getElem?_eq_getElem earlier]
  have node : served[place].1 ∈ function.nodes := by
    have member := List.mem_of_getElem? listed
    rw [requestsFor_eq, List.mem_append, List.mem_map, List.mem_map] at member
    rcases member with ⟨address, present, same⟩ | ⟨address, present, same⟩ <;>
    · rw [← same]
      exact present
  exact ⟨now, served[place], standing, listed, same,
    Graph.head?_neighbourhood (within node) _ (by decide)⟩

/-- An action pulls as much as it wants, or as much as is left. -/
theorem Underway.pulled_length
    (underway : Underway number function index subgraphs tuples left workspace)
    (asked : action.asked? = some index)
    (uncollected : ∀ nodeCount, action ≠ .collect index nodeCount) :
    (workspace.pulled Reply.subgraphsOf index action).length =
        min (action.subgraphsWanted left.requests.length) left.requests.length ∧
      (workspace.pulled Reply.tuplesOf index action).length =
        min (action.tuplesWanted left.tuples.length) left.tuples.length := by
  -- What is wanted is taken from the front, and taking ends where nothing is left.
  obtain ⟨now, found, -⟩ := underway.has
  obtain ⟨-, handed, named⟩ := act_asked asked uncollected underway.standing found
  rw [pulled, if_pos asked, handed, pulled, if_pos asked, named, List.length_map,
    List.length_take, List.length_take]
  exact ⟨rfl, rfl⟩

/-- A drained stream of subgraphs refuses, and nothing changes. -/
theorem Underway.refuse_subgraph
    (underway : Underway number function index subgraphs tuples left workspace)
    (drained : left.requests = []) :
    workspace.act (.nextSubgraph index) = (workspace, .fault .noMoreSubgraphs) := by
  -- The request is answered with a refusal, and the generator is put back as it was.
  obtain ⟨now, found, -⟩ := underway.has
  rw [Workspace.act, ask_eq underway.standing found, nextSubgraph, drained]
  simp only [answered]
  rw [setGenerator_self underway.standing]

/-- A drained stream of tuples refuses, and nothing changes. -/
theorem Underway.refuse_tuple
    (underway : Underway number function index subgraphs tuples left workspace)
    (drained : left.tuples = []) :
    workspace.act (.nextTuple index) = (workspace, .fault .noMoreTuples) := by
  -- The same holds of the other stream.
  obtain ⟨now, found, -⟩ := underway.has
  rw [Workspace.act, ask_eq underway.standing found, nextTuple, drained]
  simp only [answered]
  rw [setGenerator_self underway.standing]

/--
A generator follows the function that it was made for, whatever is done in between.

The pull at each place serves the request at that place with the function as it then is, which has
the center and so begins with it; the tuples are those of the function as it was.
There is more to come exactly until every request and every tuple has had its turn, a pull takes
what it wants of what is left, and a drained stream refuses without changing anything.
An iteration that is broken off and taken up again is a series of pulls.
-/
theorem pulls_follow_function (coded : workspace.subjects[number]? = some (.coded function))
    (actions : List Action)
    (uncollected : ∀ nodeCount, .collect workspace.generators.length nodeCount ∉ actions) :
    let index := workspace.generators.length
    let start := (workspace.act (.generate number)).1
    let requests := function.nodes.map (·, 2) ++ function.nodes.map (·, 3)
    let subgraphs := start.pulls Reply.subgraphsOf index actions
    let tuples := start.pulls Reply.tuplesOf index actions
    let last := (start.actAll actions).1
    (∀ (place : Nat) (moment : Workspace) (subgraph : Graph) (center : Address),
      subgraphs[place]? = some (moment, subgraph, center) →
      ∃ (now : Flowgraph) (distance : Nat), moment.subjects[number]? = some (.coded now) ∧
        requests[place]? = some (center, distance) ∧
        subgraph = now.neighbourhood center distance 30 ∧
        subgraph.nodes.head? = some center) ∧
    (∀ (place : Nat) (moment : Workspace) (tuple : List String),
      tuples[place]? = some (moment, tuple) →
      (function.ngrams 3)[place]? = some tuple) ∧
    ∃ left, last.generators[index]? = some (number, left) ∧
      (left.hasSubgraphs = true ↔ subgraphs.length < 2 * function.nodes.length) ∧
      (left.hasTuples = true ↔ tuples.length < (function.ngrams 3).length) ∧
      (∀ action, action.asked? = some index → (∀ nodeCount, action ≠ .collect index nodeCount) →
        let unserved := 2 * function.nodes.length - subgraphs.length
        let untold := (function.ngrams 3).length - tuples.length
        (last.pulled Reply.subgraphsOf index action).length =
          min (action.subgraphsWanted unserved) unserved ∧
        (last.pulled Reply.tuplesOf index action).length =
          min (action.tuplesWanted untold) untold ∧
        (last.act action).1.subjects = last.subjects) ∧
      (left.hasSubgraphs = false →
        last.act (.nextSubgraph index) = (last, .fault .noMoreSubgraphs)) ∧
      (left.hasTuples = false → last.act (.nextTuple index) = (last, .fault .noMoreTuples)) := by
  intro index start requests subgraphs tuples last
  -- All that is said follows from the state in which the actions leave the generator.
  obtain ⟨left, underway⟩ := (underway_generate coded).actAll actions uncollected
  have countRequests : subgraphs.length + left.requests.length = 2 * function.nodes.length :=
    underway.count_requests
  have countTuples : tuples.length + left.tuples.length = (function.ngrams 3).length :=
    underway.count_tuples
  refine ⟨?_, ?_, left, underway.standing, ?_, ?_, ?_, ?_, ?_⟩
  · -- A pull serves the request at its place, and the graph of the moment has its node.
    intro place moment subgraph center found
    obtain ⟨now, ⟨node, distance⟩, standing, listed, same, first⟩ := underway.served found
    obtain ⟨rfl, rfl⟩ := Prod.mk.inj same
    rw [requestsFor_eq] at listed
    exact ⟨now, distance, standing, listed, rfl, first⟩
  · intro place moment tuple found
    -- What was handed out stands in front of what is left.
    have told : (tuples.map (·.2))[place]? = some tuple := by
      rw [List.getElem?_map, found]
      rfl
    have inside := (List.getElem?_eq_some_iff.mp told).1
    rw [show function.ngrams 3 = tuples.map (·.2) ++ left.tuples from underway.tuples.symm,
      List.getElem?_append_left inside, told]
  · -- There are subgraphs left unless as many were handed out as were requested.
    rw [hasSubgraphs, Bool.not_eq_true', List.isEmpty_eq_false_iff, ← List.length_pos_iff]
    omega
  · -- There are tuples left unless as many were handed out as there are.
    rw [hasTuples, Bool.not_eq_true', List.isEmpty_eq_false_iff, ← List.length_pos_iff]
    omega
  · -- How much is pulled next depends on what is left, which is all but what was handed out.
    intro action asked notCollect unserved untold
    have requestsLeft : unserved = left.requests.length := by omega
    have tuplesLeft : untold = left.tuples.length := by omega
    obtain ⟨handed, named⟩ := underway.pulled_length asked notCollect
    rw [requestsLeft, tuplesLeft]
    exact ⟨handed, named, subjects_act_of_asked (by simp [asked])⟩
  · -- A stream without anything left refuses.
    intro drained
    exact underway.refuse_subgraph (by simpa [hasSubgraphs] using drained)
  · intro drained
    exact underway.refuse_tuple (by simpa [hasTuples] using drained)

/--
A function of two nodes that grows by a third one between two pulls.

The second neighbourhood has the new node in it, while the one tuple is told although its block is
gone; of the four requests two are still to come.
-/
theorem pulls_follow_function_growing :
    let code : Block := [⟨"a", []⟩, ⟨"b", []⟩, ⟨"c", []⟩]
    let function := Flowgraph.build [.node 1, .node 2, .edge (1, 2), .block 1 code]
    let workspace : Workspace := ⟨[.coded function], []⟩
    let actions : List Action := [.nextSubgraph 0, .edit 0 (.node 3), .edit 0 (.edge (2, 3)),
      .edit 0 (.block 1 []), .takeSubgraphs 0 (some 1), .nextTuple 0]
    let start := (workspace.act (.generate 0)).1
    let subgraphs := start.pulls Reply.subgraphsOf 0 actions
    let tuples := start.pulls Reply.tuplesOf 0 actions
    let last := (start.actAll actions).1
    workspace.subjects[0]? = some (.coded function) ∧
    (∀ nodeCount, .collect 0 nodeCount ∉ actions) ∧
    subgraphs.map (fun pull => (pull.2.1.nodes, pull.2.2)) = [([1, 2], 1), ([2, 3, 1], 2)] ∧
    tuples.map (·.2) = [["a", "b", "c"]] ∧
    ∃ left, last.generators[0]? = some (0, left) ∧ left.hasSubgraphs = true ∧
      left.hasTuples = false ∧ last.act (.nextTuple 0) = (last, .fault .noMoreTuples) := by
  intro code function workspace actions start subgraphs tuples last
  -- The actions do not collect, and so much can be computed: two pulls and one tuple.
  have coded : workspace.subjects[0]? = some (.coded function) := rfl
  have uncollected : ∀ nodeCount, .collect 0 nodeCount ∉ actions := by simp [actions]
  obtain ⟨-, -, left, standing, moreSubgraphs, moreTuples, -, -, refused⟩ :=
    pulls_follow_function coded actions uncollected
  have pulledSubgraphs : subgraphs.length = 2 := by decide +kernel
  have pulledTuples : tuples.length = 1 := by decide +kernel
  have nodes : function.nodes.length = 2 := by decide +kernel
  have words : (function.ngrams 3).length = 1 := by decide +kernel
  -- One tuple was told, and there is one only.
  have drained : left.hasTuples = false := by
    rw [← Bool.not_eq_true, moreTuples, words]
    exact Nat.not_lt.mpr (Nat.le_of_eq pulledTuples.symm)
  refine ⟨coded, uncollected, by decide +kernel, by decide +kernel, left, standing, ?_, drained,
    refused drained⟩
  rw [moreSubgraphs, nodes]
  exact lt_of_eq_of_lt pulledSubgraphs (by decide)

end Workspace

end Flowprint
