import Flowprint.Proofs.Document.Holds

/-!
A document is taken over up to its first bad element.

What stays behind is decided by the good elements in front of it, and so is the diagnosis.
-/

namespace Flowprint

namespace Document

/-- Where taking over a document comes to a halt. -/
inductive Halt where
  /-- Nowhere, since everything is good. -/
  | nowhere
  /-- At the document itself, before any of its elements. -/
  | document (value : Json)
  /-- At a node. -/
  | node (value : Json)
  /-- At an edge. -/
  | edge (value : Json)

/-- The document has an array of nodes and an array of edges. -/
def Lists (document : Json) (nodes edges : List Json) : Prop :=
  document.field? "nodes" = some (.array nodes) ∧ document.field? "edges" = some (.array edges)

/-- A node and its block take their places in a function. -/
def placeNode (function : Flowgraph) (node : Address × Block) : Flowgraph :=
  (function.addNode node.1).setBlock node.1 node.2

/--
What a function becomes by taking over a document, and where that comes to a halt.

All nodes in front of the first bad one are added, and edges only if there is no bad node.
-/
inductive TakenOver (function : Flowgraph) (document : Json) : Flowgraph → Halt → Prop where
  /-- A document of another shape leaves the function as it was. -/
  | shapeless (other : ∀ nodes edges, ¬Lists document nodes edges) :
    TakenOver function document function (.document document)
  /-- Nodes are added up to the first bad one, and no edge is. -/
  | atNode {good rest edges : List Json} {bad : Json} {nodes : List (Address × Block)}
    (lists : Lists document (good ++ bad :: rest) edges) (held : List.Forall₂ HoldsNode good nodes)
    (refused : ∀ node, ¬HoldsNode bad node) :
    TakenOver function document (nodes.foldl placeNode function) (.node bad)
  /-- All nodes are added, and edges up to the first bad one. -/
  | atEdge {values good rest : List Json} {bad : Json} {nodes : List (Address × Block)}
    {edges : List Edge} (lists : Lists document values (good ++ bad :: rest))
    (heldNodes : List.Forall₂ HoldsNode values nodes) (held : List.Forall₂ HoldsEdge good edges)
    (refused : ∀ edge, ¬HoldsEdge bad edge) :
    TakenOver function document
      (edges.foldl Flowgraph.addEdge (nodes.foldl placeNode function)) (.edge bad)
  /-- All nodes and all edges are added. -/
  | whole {values edgeValues : List Json} {nodes : List (Address × Block)} {edges : List Edge}
    (lists : Lists document values edgeValues) (heldNodes : List.Forall₂ HoldsNode values nodes)
    (heldEdges : List.Forall₂ HoldsEdge edgeValues edges) :
    TakenOver function document
      (edges.foldl Flowgraph.addEdge (nodes.foldl placeNode function)) .nowhere

/-- The diagnosis of a halt. -/
inductive Halt.Explained : Halt → Diagnosis → Prop where
  /-- The document has no nodes or no edges, or it is no object. -/
  | missing {document : Json}
    (lacks : document.field? "nodes" = none ∨ document.field? "edges" = none) :
    Explained (.document document) .missingFields
  /-- The document has both, and one of them is no array. -/
  | notArrays {document nodes edges : Json} (atNodes : document.field? "nodes" = some nodes)
    (atEdges : document.field? "edges" = some edges)
    (bad : (∀ items, nodes ≠ .array items) ∨ ∀ items, edges ≠ .array items) :
    Explained (.document document) .notArrays
  /-- The node has a fault of its own. -/
  | node {value : Json} {diagnosis : Diagnosis} (refused : RefusedNode value diagnosis) :
    Explained (.node value) diagnosis
  /-- The edge has a fault of its own. -/
  | edge {value : Json} {diagnosis : Diagnosis} (refused : RefusedEdge value diagnosis) :
    Explained (.edge value) diagnosis

/-- What is quoted of a refused node stands inside the node. -/
theorem RefusedNode.nesting_le {value : Json} {diagnosis : Diagnosis}
    (refused : RefusedNode value diagnosis) : diagnosis.nesting ≤ value.nesting := by
  -- The cases are the reasons for a refusal, and each says what is quoted.
  cases refused with
  | missing => exact Nat.zero_le _
  | invalid atAddress => exact Nat.le_of_lt (Json.nesting_lt_of_field? atAddress)
  | @malformed _ good rest entry _ _ atInstructions =>
    -- The instruction stands in the array, and the array in the node.
    have inside : entry.nesting < (Json.array (good ++ entry :: rest)).nesting :=
      Json.nesting_lt_of_mem (by simp)
    exact Nat.le_of_lt (Nat.lt_trans inside (Json.nesting_lt_of_field? atInstructions))

/-- What is quoted of a refused edge stands inside the edge. -/
theorem RefusedEdge.nesting_le {value : Json} {diagnosis : Diagnosis}
    (refused : RefusedEdge value diagnosis) : diagnosis.nesting ≤ value.nesting := by
  -- The cases are the reasons for a refusal; the deeper of the two ends is quoted.
  cases refused with
  | missing => exact Nat.zero_le _
  | invalid atSource atDestination =>
    have atSource := Json.nesting_lt_of_field? atSource
    have atDestination := Json.nesting_lt_of_field? atDestination
    exact Nat.max_le.mpr ⟨Nat.le_of_lt atSource, Nat.le_of_lt atDestination⟩

/-- No diagnosis quotes a value that nests deeper than the document. -/
theorem TakenOver.nesting_le {function after : Flowgraph} {document : Json} {halt : Halt}
    {diagnosis : Diagnosis} (taken : TakenOver function document after halt)
    (explained : halt.Explained diagnosis) : diagnosis.nesting ≤ document.nesting := by
  -- A bad element stands in an array, and the array in the document.
  have inside {key : String} {items : List Json} {bad : Json}
      (found : document.field? key = some (.array items)) (member : bad ∈ items) :
      bad.nesting ≤ document.nesting :=
    Nat.le_of_lt (Nat.lt_trans (Json.nesting_lt_of_mem member) (Json.nesting_lt_of_field? found))
  -- The diagnosis tells where the halt is, and the halt tells where the bad element stands.
  cases explained with
  | missing => exact Nat.zero_le _
  | notArrays => exact Nat.zero_le _
  | node refused =>
    cases taken with
    | atNode lists => exact Nat.le_trans refused.nesting_le (inside lists.1 (by simp))
  | edge refused =>
    cases taken with
    | atEdge lists => exact Nat.le_trans refused.nesting_le (inside lists.2 (by simp))

/-- A value is taken over as the node it holds, or it is refused and nothing changes. -/
theorem addNodeJson_eq (function : Flowgraph) (value : Json) :
    (∃ node, HoldsNode value node ∧
      function.addNodeJson value = (placeNode function node, none)) ∨
    ∃ diagnosis, (∀ node, ¬HoldsNode value node) ∧ RefusedNode value diagnosis ∧
      function.addNodeJson value = (function, some diagnosis) := by
  -- Reading either finds what the value holds, or it finds why that is nothing.
  unfold Flowgraph.addNodeJson
  simp only [← node_eq_ok_iff]
  cases read : node value with
  | ok held => exact Or.inl ⟨held, rfl, rfl⟩
  | error diagnosis =>
    exact Or.inr ⟨diagnosis, by simp, refusedNode_of_node_eq_error read, rfl⟩

/-- A value is taken over as the edge it holds, or it is refused and nothing changes. -/
theorem addEdgeJson_eq (function : Flowgraph) (value : Json) :
    (∃ edge, HoldsEdge value edge ∧
      function.addEdgeJson value = (function.addEdge edge, none)) ∨
    ∃ diagnosis, (∀ edge, ¬HoldsEdge value edge) ∧ RefusedEdge value diagnosis ∧
      function.addEdgeJson value = (function, some diagnosis) := by
  -- As for a node, the reader's answer decides.
  unfold Flowgraph.addEdgeJson
  simp only [← edge_eq_ok_iff]
  cases read : edge value with
  | ok held => exact Or.inl ⟨held, rfl, rfl⟩
  | error diagnosis =>
    exact Or.inr ⟨diagnosis, by simp, refusedEdge_of_edge_eq_error read, rfl⟩

/--
Elements are taken over one after another as far as they are good.

What follows them is nothing, or it starts with the element that gives the diagnosis.
-/
theorem addAll_eq {α : Type} {add : Flowgraph → Json → Flowgraph × Option Diagnosis}
    {place : Flowgraph → α → Flowgraph} {holds : Json → α → Prop}
    {refuses : Json → Diagnosis → Prop}
    (step : ∀ function value,
      (∃ thing, holds value thing ∧ add function value = (place function thing, none)) ∨
      ∃ diagnosis, (∀ thing, ¬holds value thing) ∧ refuses value diagnosis ∧
        add function value = (function, some diagnosis))
    (function : Flowgraph) (values : List Json) :
    (∃ things, List.Forall₂ holds values things ∧
      addAll add function values = (things.foldl place function, none)) ∨
    ∃ good bad rest things diagnosis, values = good ++ bad :: rest ∧
      List.Forall₂ holds good things ∧ (∀ thing, ¬holds bad thing) ∧ refuses bad diagnosis ∧
      addAll add function values = (things.foldl place function, some diagnosis) := by
  -- The induction follows the worker, which carries the function along.
  induction values generalizing function with
  | nil => exact Or.inl ⟨[], .nil, rfl⟩
  | cons value rest ih =>
    rcases step function value with ⟨thing, held, result⟩ | ⟨diagnosis, unheld, why, result⟩
    · -- The element is good, so the worker goes on behind it.
      rw [addAll, result]
      dsimp only
      rcases ih (place function thing) with
        ⟨things, all, later⟩ | ⟨good, bad, rest, things, diagnosis, rfl, all, unheld, why, later⟩
      · exact Or.inl ⟨thing :: things, .cons held all, later⟩
      · exact Or.inr ⟨value :: good, bad, rest, thing :: things, diagnosis, rfl,
          .cons held all, unheld, why, later⟩
    · -- The element is bad, and nothing behind it is looked at.
      rw [addAll, result]
      exact Or.inr ⟨[], value, rest, [], diagnosis, rfl, .nil, unheld, why, rfl⟩

/-- Taking over a document comes to a halt somewhere, with a diagnosis unless that is nowhere. -/
theorem exists_takenOver (function : Flowgraph) (document : Json) :
    ∃ halt, TakenOver function document (function.addDocument document).1 halt ∧
      ((halt = .nowhere ∧ (function.addDocument document).2 = none) ∨
        ∃ diagnosis, halt.Explained diagnosis ∧
          (function.addDocument document).2 = some diagnosis) := by
  -- The branches of the reading are followed, and each of them names its halt.
  unfold Flowgraph.addDocument
  split
  · next nodes edges atNodes atEdges =>
    split
    · next values edgeValues isNodes isEdges =>
      obtain rfl := Json.items?_eq_some_iff.mp isNodes
      obtain rfl := Json.items?_eq_some_iff.mp isEdges
      -- The nodes are all good, or there is a first bad one.
      rcases addAll_eq addNodeJson_eq function values with ⟨nodes, held, result⟩ |
        ⟨good, bad, rest, nodes, diagnosis, rfl, held, refused, why, result⟩
      · rw [result]
        dsimp only
        -- All nodes are good, so the edges decide.
        rcases addAll_eq addEdgeJson_eq (nodes.foldl placeNode function) edgeValues with
          ⟨edges, heldEdges, result⟩ |
          ⟨good, bad, rest, edges, diagnosis, rfl, heldEdges, refused, why, result⟩
        · -- Nothing is left to be refused.
          rw [result]
          exact ⟨.nowhere, .whole ⟨atNodes, atEdges⟩ held heldEdges, Or.inl ⟨rfl, rfl⟩⟩
        · -- All nodes and the edges in front of the bad one are in the function.
          rw [result]
          exact ⟨.edge bad, .atEdge ⟨atNodes, atEdges⟩ held heldEdges refused,
            Or.inr ⟨diagnosis, .edge why, rfl⟩⟩
      · -- A bad node keeps every edge out.
        rw [result]
        exact ⟨.node bad, .atNode ⟨atNodes, atEdges⟩ held refused,
          Or.inr ⟨diagnosis, .node why, rfl⟩⟩
    · -- Both fields are there, and one of them is no array.
      next notBoth =>
      refine ⟨.document document, .shapeless ?_, Or.inr ⟨.notArrays, ?_, rfl⟩⟩
      · rintro values edgeValues ⟨isNodes, isEdges⟩
        obtain rfl : nodes = .array values := by simpa [atNodes] using isNodes
        obtain rfl : edges = .array edgeValues := by simpa [atEdges] using isEdges
        exact notBoth values edgeValues rfl rfl
      · refine .notArrays atNodes atEdges ?_
        rcases eq_none_or_eq_none notBoth with noNodes | noEdges
        · refine Or.inl ?_
          rintro items rfl
          cases noNodes
        · refine Or.inr ?_
          rintro items rfl
          cases noEdges
  · -- One of the fields is missing.
    next notBoth =>
    refine ⟨.document document, .shapeless ?_, Or.inr ⟨.missingFields, .missing ?_, rfl⟩⟩
    · rintro values edgeValues ⟨isNodes, isEdges⟩
      exact notBoth _ _ isNodes isEdges
    · exact eq_none_or_eq_none notBoth

/--
A document is taken over up to its first bad element, and the halt decides the answer.

There is no diagnosis exactly when nothing is bad.
The one case without an answer is a diagnosis that quotes a value which nests too deep.
-/
theorem addDocument_takenOver (room : Nat) (function : Flowgraph) (document : Json) :
    ∃ halt, TakenOver function document (function.addDocument document).1 halt ∧
      ((halt = .nowhere ∧ diagnosed room (function.addDocument document) =
          .ok ((function.addDocument document).1, none)) ∨
        ∃ diagnosis, halt.Explained diagnosis ∧
          diagnosed room (function.addDocument document) =
            if diagnosis.nesting ≤ room then
              .ok ((function.addDocument document).1, some diagnosis)
            else .error .tooDeepToQuote) := by
  obtain ⟨halt, taken, answer⟩ := exists_takenOver function document
  refine ⟨halt, taken, ?_⟩
  -- Only a diagnosis can be lost, and it is lost by its depth alone.
  rcases outcome : function.addDocument document with ⟨after, why⟩
  rw [outcome] at answer
  rcases answer with ⟨nowhere, rfl⟩ | ⟨diagnosis, explained, rfl⟩
  · exact Or.inl ⟨nowhere, rfl⟩
  · refine Or.inr ⟨diagnosis, explained, ?_⟩
    by_cases shallow : diagnosis.nesting ≤ room
    · simp [diagnosed, Diagnosis.obstacle?, shallow]
    · simp [diagnosed, Diagnosis.obstacle?, shallow]

/-- Arrays inside each other around an empty one. -/
def arrays : Nat → Json
  | 0 => .array []
  | count + 1 => .array [arrays count]

/-- Each array around it makes a value nest one deeper. -/
theorem nesting_arrays (count : Nat) : (arrays count).nesting = count + 1 := by
  -- The induction is on the count, one array at a time.
  induction count with
  | zero => rfl
  | succ count ih => simp [arrays, Json.nesting, Json.nestingAmong, ih]

/-- An address of many arrays is no address, and the answer that says so is lost in quoting it. -/
theorem addDocument_tooDeepToQuote :
    let good : Json := .object [("address", .integer 1), ("instructions", .array [])]
    let bad : Json := .object [("address", arrays 1014), ("instructions", .array [])]
    let document : Json := .object [("nodes", .array [good, bad]), ("edges", .array [])]
    Lists document [good, bad] [] ∧ HoldsNode good (1, []) ∧ (∀ node, ¬HoldsNode bad node) ∧
    diagnosed Diagnosis.maxNesting (Flowgraph.empty.addDocument document) =
      .error .tooDeepToQuote := by
  intro good bad document
  -- The first node is taken over before the second one is refused.
  have held : node good = .ok (1, []) := rfl
  have refused : node bad = .error (.nodeInvalid (arrays 1014).nesting) := rfl
  have taken : Flowgraph.empty.addDocument document =
      (placeNode .empty (1, []), some (.nodeInvalid (arrays 1014).nesting)) := rfl
  refine ⟨⟨rfl, rfl⟩, node_eq_ok_iff.mp held, ?_, ?_⟩
  · -- Reading the second node fails, so it holds no node at all.
    intro other holds
    rw [node_eq_ok_iff.mpr holds] at refused
    cases refused
  · -- The depth of the address is above the room, which is decided by the numbers alone.
    have deep : Diagnosis.obstacle? Diagnosis.maxNesting (.nodeInvalid (1014 + 1)) =
        some .tooDeepToQuote := by decide
    rw [taken, nesting_arrays]
    simp only [diagnosed, Option.bind_some, deep]

end Document

end Flowprint
