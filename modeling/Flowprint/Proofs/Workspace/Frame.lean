import Flowprint.Proofs.Document.RoundTrip
import Flowprint.Workspace.Basic

/-!
What an action leaves as it was.

No action takes code away from a function or a node out of it, and a generator is changed only by
the actions that ask it for something.
-/

namespace Flowprint

namespace Flowgraph

open Document

/-- Taking over a node from a document loses no node. -/
theorem nodes_subset_addNodeJson (function : Flowgraph) (value : Json) :
    function.nodes ⊆ (function.addNodeJson value).1.nodes := by
  -- A node that is refused changes nothing.
  rcases addNodeJson_eq function value with ⟨node, -, result⟩ | ⟨diagnosis, -, -, result⟩
  · rw [result]
    exact fun _ present => Distinct.mem_insert.mpr (Or.inl present)
  · rw [result]
    exact List.Subset.refl _

/-- Taking over an edge from a document loses no node. -/
theorem nodes_subset_addEdgeJson (function : Flowgraph) (value : Json) :
    function.nodes ⊆ (function.addEdgeJson value).1.nodes := by
  -- The nodes stay as they are, whether or not the edge is refused.
  rcases addEdgeJson_eq function value with ⟨edge, -, result⟩ | ⟨diagnosis, -, -, result⟩
  · rw [result]
    exact List.Subset.refl _
  · rw [result]
    exact List.Subset.refl _

/-- Taking over a document loses no node, wherever it halts. -/
theorem nodes_subset_takenOver {function after : Flowgraph} {document : Json} {halt : Halt}
    (taken : TakenOver function document after halt) : function.nodes ⊆ after.nodes := by
  -- Edges that are added behind the nodes leave the nodes alone.
  have placed (held : List (Address × Block)) :
      function.nodes ⊆ (held.foldl placeNode function).nodes := by
    rw [nodes_foldl_placeNode]
    exact Distinct.subset_foldl_insert _ _
  cases taken with
  -- What is not a document's shape changes nothing; nodes may be added before it halts.
  | shapeless => exact List.Subset.refl _
  | atNode => exact placed _
  | atEdge =>
    rw [(foldl_addEdge _ _).2.1]
    exact placed _
  | whole =>
    rw [(foldl_addEdge _ _).2.1]
    exact placed _

end Flowgraph

/-- A function stays a function, and it loses no node. -/
def Subject.GrowsTo (earlier later : Subject) : Prop :=
  ∀ now, earlier = .coded now → ∃ grown, later = .coded grown ∧ now.nodes ⊆ grown.nodes

/-- Functions grow as their nodes do. -/
theorem Subject.coded_growsTo {now grown : Flowgraph} (more : now.nodes ⊆ grown.nodes) :
    (coded now).GrowsTo (.coded grown) := by
  -- A function that grows is a function with more nodes.
  rintro _ ⟨⟩
  exact ⟨grown, rfl, more⟩

/-- An edit lets every subject grow that it can be made on. -/
theorem Subject.growsTo_edit {earlier later : Subject} {edit : Edit}
    (edited : earlier.edit edit = .ok later) : earlier.GrowsTo later := by
  cases earlier with
  | coded now =>
    cases edited
    exact coded_growsTo (now.nodes_subset_edit edit)
  | bare graph =>
    -- A bare graph is no function to begin with.
    intro now same
    cases same

/-- The generator that an action asks for something. -/
def Action.asked? : Action → Option Nat
  | .nextSubgraph generator => some generator
  | .nextTuple generator => some generator
  | .takeSubgraphs generator _ => some generator
  | .takeTuples generator _ => some generator
  | .collect generator _ => some generator
  | _ => none

namespace Workspace

variable {workspace : Workspace} {number index : Nat} {nodes : List Address}
  {function : Flowgraph} {subject : Subject} {generator left : Generator} {graph : Graph}

/-- A subject is a function that has at least some nodes. -/
def Has (workspace : Workspace) (number : Nat) (nodes : List Address) : Prop :=
  ∃ now, workspace.subjects[number]? = some (.coded now) ∧ nodes ⊆ now.nodes

/-- Replacing a subject by what it grows to keeps what every subject has. -/
theorem Has.setSubject (has : workspace.Has number nodes) {earlier later : Subject}
    (found : workspace.subjects[index]? = some earlier) (grows : earlier.GrowsTo later) :
    (workspace.setSubject index later).Has number nodes := by
  obtain ⟨now, standing, within⟩ := has
  have inside : number < workspace.subjects.length :=
    (List.getElem?_eq_some_iff.mp standing).1
  by_cases same : index = number
  · -- What was replaced is the function itself, so its nodes are among those it has grown to.
    subst same
    obtain rfl : earlier = .coded now := by simpa [found] using standing
    obtain ⟨grown, rfl, more⟩ := grows now rfl
    refine ⟨grown, ?_, List.Subset.trans within more⟩
    simp [Workspace.setSubject, inside]
  · -- Another subject was replaced, so this one is what it was.
    refine ⟨now, ?_, within⟩
    simp [Workspace.setSubject, List.getElem?_set_ne same, standing]

/-- A request keeps what a subject has if its answer does. -/
theorem Has.request (has : workspace.Has number nodes) {asked : CodeRequest}
    {answer : Flowgraph → Workspace × Reply}
    (keeps : ∀ now, workspace.subjects[index]? = some (.coded now) →
      (answer now).1.Has number nodes) :
    (workspace.request index asked answer).1.Has number nodes := by
  -- Only a function gets an answer, and every other request changes nothing.
  unfold Workspace.request
  split
  · exact has
  · next subject found =>
    cases subject with
    | bare graph => exact has
    | coded now => exact keeps now found

/-- Taking over a part of a document keeps what a subject has if no node is lost in it. -/
theorem Has.take (has : workspace.Has number nodes) {asked : CodeRequest}
    {add : Flowgraph → Flowgraph × Option Diagnosis}
    (grows : ∀ now, now.nodes ⊆ (add now).1.nodes) :
    (workspace.take index asked add).1.Has number nodes := by
  -- Only if there is a function to take it over, anything is replaced.
  apply has.request
  intro now found
  exact has.setSubject found (Subject.coded_growsTo (grows now))

/-- A question to a generator changes no subject. -/
theorem subjects_ask (workspace : Workspace) (number : Nat)
    (question : Generator → Graph → Reply × Generator) :
    (workspace.ask number question).1.subjects = workspace.subjects := by
  -- Either nobody is asked, or only the generator is put back.
  unfold ask
  split <;> rfl

/-- An action that asks a generator for something changes no subject. -/
theorem subjects_act_of_asked {action : Action} (asked : action.asked? ≠ none) :
    (workspace.act action).1.subjects = workspace.subjects := by
  -- Each of these actions is a question, and a question replaces a generator at most.
  cases action with
  | nextSubgraph => exact subjects_ask _ _ _
  | nextTuple => exact subjects_ask _ _ _
  | takeSubgraphs => exact subjects_ask _ _ _
  | takeTuples => exact subjects_ask _ _ _
  | collect => exact subjects_ask _ _ _
  | _ => exact absurd rfl asked

/-- No action takes away the code or a node of a function. -/
theorem Has.act (has : workspace.Has number nodes) (action : Action) :
    (workspace.act action).1.Has number nodes := by
  -- Questions to generators come last, since they leave all subjects as they are.
  by_cases asked : action.asked? = none
  · cases action with
    -- A new subject comes behind all others.
    | store subject =>
      obtain ⟨now, found, within⟩ := has
      have inside : number < workspace.subjects.length := (List.getElem?_eq_some_iff.mp found).1
      exact ⟨now, by simp [Workspace.act, List.getElem?_append_left inside, found], within⟩
    -- The subject is replaced by what the edit makes of it, or nothing happens.
    | edit index edit =>
      rw [Workspace.act]
      split
      · exact has
      · next subject found =>
        split
        · next later edited => exact has.setSubject found (Subject.growsTo_edit edited)
        · exact has
    -- Without a block there is nothing to extend, and the function is left alone.
    | extend index address instruction =>
      apply has.request
      intro now found
      dsimp only [Flowgraph.extendBlock]
      cases now.blocks.get? address with
      | none => exact has
      | some block =>
        have more := now.nodes_subset_edit (.instruction address instruction)
        exact has.setSubject found (Subject.coded_growsTo more)
    | takeNode index value => exact has.take fun now => now.nodes_subset_addNodeJson value
    | takeEdge index value => exact has.take fun now => now.nodes_subset_addEdgeJson value
    | takeDocument index document =>
      apply has.take
      intro now
      obtain ⟨halt, taken, -⟩ := Document.exists_takenOver now document
      exact Flowgraph.nodes_subset_takenOver taken
    | generate index => exact has.request fun _ _ => has
    | _ => cases asked
  · -- The subjects are those of before.
    obtain ⟨now, found, within⟩ := has
    exact ⟨now, by rw [subjects_act_of_asked asked, found], within⟩

/-- A request changes a generator only if its answer does. -/
theorem generators_request {asked : CodeRequest} {answer : Flowgraph → Workspace × Reply}
    (keeps : ∀ now, (answer now).1.generators[number]? = workspace.generators[number]?) :
    (workspace.request index asked answer).1.generators[number]? =
      workspace.generators[number]? := by
  -- Where there is no function, nothing is answered and nothing changes.
  unfold request
  split
  · rfl
  · next subject _ =>
    cases subject with
    | bare graph => rfl
    | coded now => exact keeps now

/-- A question to another generator leaves this one as it is. -/
theorem generators_ask {question : Generator → Graph → Reply × Generator}
    (other : index ≠ number) :
    (workspace.ask index question).1.generators[number]? = workspace.generators[number]? := by
  -- Only the generator that is asked is replaced.
  unfold ask
  split
  · rfl
  · simp [setGenerator, other]

/-- An action that does not ask a generator leaves it as it is. -/
theorem generators_act (inside : number < workspace.generators.length) {action : Action}
    (other : action.asked? ≠ some number) :
    (workspace.act action).1.generators[number]? = workspace.generators[number]? := by
  have unasked {index : Nat} (asked : action.asked? = some index) : index ≠ number := by
    rintro rfl
    exact other asked
  cases action with
  | store subject => rfl
  -- An edit touches subjects and leaves all generators.
  | edit index edit =>
    rw [act]
    split
    · rfl
    · split <;> rfl
  | extend index address instruction =>
    -- A request is answered with the generators as they are.
    apply generators_request
    intro now
    split <;> rfl
  | takeNode index value => exact generators_request fun _ => rfl
  | takeEdge index value => exact generators_request fun _ => rfl
  | takeDocument index document => exact generators_request fun _ => rfl
  | generate index =>
    -- A new generator comes behind all others.
    exact generators_request fun _ => List.getElem?_append_left inside
  -- The other generator is asked, not this one.
  | nextSubgraph index => exact generators_ask (unasked rfl)
  | nextTuple index => exact generators_ask (unasked rfl)
  | takeSubgraphs index count => exact generators_ask (unasked rfl)
  | takeTuples index count => exact generators_ask (unasked rfl)
  | collect index nodeCount => exact generators_ask (unasked rfl)

/-- A function gets a new generator, which has the next number. -/
theorem act_generate (coded : workspace.subjects[number]? = some (.coded function)) :
    workspace.act (.generate number) =
      ({ workspace with
          generators := workspace.generators ++ [(number, Generator.new function)] },
        .made workspace.generators.length) := by
  -- The subject is a function, so the request is made.
  simp [act, request, coded, Subject.function]

/-- A generator is asked together with the graph of its subject. -/
theorem ask_eq (standing : workspace.generators[index]? = some (number, generator))
    (found : workspace.subjects[number]? = some subject)
    (question : Generator → Graph → Reply × Generator) :
    workspace.ask index question =
      (workspace.setGenerator index (question generator subject.graph).2,
        (question generator subject.graph).1) := by
  -- The generator stands for a subject, and this subject has a graph.
  simp [ask, generator?, standing, found]

/-- A generator that is replaced keeps the number of its subject. -/
theorem generators_setGenerator
    (standing : workspace.generators[index]? = some (number, generator)) (left : Generator) :
    (workspace.setGenerator index left).generators[index]? = some (number, left) := by
  -- It is put in the place of one that was standing there.
  simp [setGenerator, standing]

/-- Replacing a generator by itself changes nothing. -/
theorem setGenerator_self
    (standing : workspace.generators[index]? = some (number, generator)) :
    workspace.setGenerator index generator = workspace := by
  have same : workspace.generators.modify index (fun entry => (entry.1, generator)) =
      workspace.generators := by
    -- Every place keeps what stood there, and this one gets the same again.
    apply List.ext_getElem?
    intro place
    rw [List.getElem?_modify]
    by_cases here : index = place
    · subst here
      simp [standing]
    · simp [here]
  rw [setGenerator, same]

end Workspace

end Flowprint
