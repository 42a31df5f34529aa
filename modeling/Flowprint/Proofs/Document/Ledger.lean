import Flowprint.Proofs.Document.Acceptance
import Flowprint.Proofs.Flowgraph.History

/-!
An element is taken over as a whole or not at all.

This is followed on a ledger, in which all that is stored of a function stands next to what was
reported, while the parts of the element are looked at one after another.
-/

namespace Flowprint

/-- Inserting an element keeps a list that has it, and else puts it at the end. -/
theorem Distinct.insert_eq_ite {α : Type} [DecidableEq α] (items : List α) (a : α)
    [Decidable (a ∈ items)] :
    Distinct.insert items a = if a ∈ items then items else items ++ [a] := by
  -- The test of insertion is decided by membership.
  simp [Distinct.insert]

/-- The edges of a graph, registered one after another, join what they join in the graph. -/
theorem Adjacency.registers_ofEdges (graph : Graph) :
    (Adjacency.ofEdges graph.edges).Registers graph := by
  -- The edges are built again by adding them, and none of them is listed twice.
  have added : (graph.edges.map Edit.edge).filterMap Edit.edge? = graph.edges := by
    simp [List.filterMap_map, Function.comp_def, Edit.edge?]
  have same : (Flowgraph.build (graph.edges.map .edge)).edges = graph.edges := by
    rw [Flowgraph.edges_build, added, ← Distinct.ofList_eq_eraseDups,
      Distinct.ofList_eq_self graph.edges_distinct]
  have built := Flowgraph.registers_build (graph.edges.map .edge)
  rw [added] at built
  refine ⟨built.edges.trans same, ?_, ?_⟩
  · -- The children that are registered are those that the edges say.
    intro address child
    rw [built.children, same]
  · -- The parents are those that the edges say, as well.
    intro address parent
    rw [built.parents, same]

/-- What is stored of a function, and what was reported while elements were offered to it. -/
structure Ledger where
  /-- The nodes, oldest first. -/
  nodes : List Address
  /-- The edges, oldest first, and what they join to each address. -/
  adjacency : Adjacency
  /-- The code, by ascending address. -/
  blocks : Blocks
  /-- The diagnoses that were noted down, oldest first. -/
  reports : List Diagnosis

namespace Ledger

/-- The ledger of a function, in which every edge was registered at both of its ends. -/
def ofFunction (function : Flowgraph) (reports : List Diagnosis) : Ledger where
  nodes := function.nodes
  -- Children and parents are searched for in a function, and here they are stored.
  adjacency := .ofEdges function.edges
  blocks := function.blocks
  reports := reports

/-- Puts a node into its place, and its block into the place of any block that was there. -/
def putNode (ledger : Ledger) (node : Address × Block) : Ledger :=
  { ledger with
    nodes := Distinct.insert ledger.nodes node.1
    blocks := ledger.blocks.set node.1 node.2 }

/-- Puts an edge into its place, and registers it at both of its ends if it is new. -/
def putEdge (ledger : Ledger) (edge : Edge) : Ledger :=
  { ledger with adjacency := ledger.adjacency.addEdge edge }

/-- Notes a diagnosis down and answers no, unless quoting it goes more than `room` deep. -/
def report (room : Nat) (ledger : Ledger) (diagnosis : Diagnosis) : Ledger × Except Fault Bool :=
  match diagnosis.obstacle? room with
  | some fault => (ledger, .error fault)
  | none => ({ ledger with reports := ledger.reports ++ [diagnosis] }, .ok false)

/-- Looks at one instruction after another, and puts the node behind the last one. -/
def takeBlock (room : Nat) (ledger : Ledger) (address : Address) (block : Block) :
    List Json → Ledger × Except Fault Bool
  -- What was read of the block stays outside the ledger as long as there is more to read.
  | [] => (ledger.putNode (address, block), .ok true)
  | entry :: rest =>
    match Instruction.ofJson? entry with
    | some instruction => takeBlock room ledger address (block ++ [instruction]) rest
    | none => ledger.report room (.malformedInstruction address entry.nesting)

/-- Looks at the parts of a node in turn, and reports the first one that is bad. -/
def takeNode (room : Nat) (ledger : Ledger) (value : Json) : Ledger × Except Fault Bool :=
  -- Missing fields are found before bad ones, and the address before the instructions.
  match value.field? "address", value.field? "instructions" with
  | some address, some instructions =>
    match address.address?, instructions.items? with
    | some start, some entries => ledger.takeBlock room start [] entries
    | _, _ => ledger.report room (.nodeInvalid address.nesting)
  | _, _ => ledger.report room .nodeMissingFields

/-- Looks at the parts of an edge in turn, and reports the first one that is bad. -/
def takeEdge (room : Nat) (ledger : Ledger) (value : Json) : Ledger × Except Fault Bool :=
  match value.field? "source", value.field? "destination" with
  | some source, some destination =>
    match source.address?, destination.address? with
    | some start, some stop => (ledger.putEdge (start, stop), .ok true)
    | _, _ => ledger.report room (.edgeInvalid (max source.nesting destination.nesting))
  | _, _ => ledger.report room .edgeMissingFields

/-- The ledger after an element was read as a whole: it is put into its place, or reported. -/
def settle {α : Type} (room : Nat) (ledger : Ledger) (put : α → Ledger) :
    Except Diagnosis α → Ledger × Except Fault Bool
  | .ok thing => (put thing, .ok true)
  | .error diagnosis => ledger.report room diagnosis

/-- The ledger of what a function has become, and the answer that goes with its diagnosis. -/
def ofResult (room : Nat) (reports : List Diagnosis) (result : Flowgraph × Option Diagnosis) :
    Ledger × Except Fault Bool :=
  -- No more than one diagnosis is noted down, and none if it is lost in quoting.
  match Document.diagnosed room result with
  | .ok (after, diagnosis) => (ofFunction after (reports ++ diagnosis.toList), .ok diagnosis.isNone)
  | .error fault => (ofFunction result.1 reports, .error fault)

/-- A node has come into its place, and nothing else has changed. -/
structure NodePut (before : Ledger) (node : Address × Block) (after : Ledger) : Prop where
  /-- A new address comes last, and a known one leaves the order as it was. -/
  nodes : after.nodes = if node.1 ∈ before.nodes then before.nodes else before.nodes ++ [node.1]
  /-- No edge has changed, nor has anything that is registered at an address. -/
  adjacency : after.adjacency = before.adjacency
  /-- The block is the one of the node. -/
  block : after.blocks.get? node.1 = some node.2
  /-- Every other address has the block that it had, if any. -/
  others : ∀ other, other ≠ node.1 → after.blocks.get? other = before.blocks.get? other
  /-- Nothing was reported. -/
  reports : after.reports = before.reports

/-- An edge has come into its place, and nothing else has changed. -/
structure EdgePut (before : Ledger) (edge : Edge) (after : Ledger) : Prop where
  /-- No node has changed. -/
  nodes : after.nodes = before.nodes
  /-- A new edge comes last, and a known one leaves the order as it was. -/
  edges : after.adjacency.edges =
    if edge ∈ before.adjacency.edges then before.adjacency.edges
    else before.adjacency.edges ++ [edge]
  /-- The end of the edge is registered at its start, and no other child is new. -/
  children : ∀ address child, child ∈ after.adjacency.children address ↔
    child ∈ before.adjacency.children address ∨ (address, child) = edge
  /-- The start of the edge is registered at its end, and no other parent is new. -/
  parents : ∀ address parent, parent ∈ after.adjacency.parents address ↔
    parent ∈ before.adjacency.parents address ∨ (parent, address) = edge
  /-- No block has changed. -/
  blocks : after.blocks = before.blocks
  /-- Nothing was reported. -/
  reports : after.reports = before.reports

/--
What becomes of a ledger to which an element is offered, and what is answered.

Of `holds`, `put` and `refused` the first says what the element holds, the second what is to be
changed by it, and the third why it is no element.
-/
inductive Offered {α : Type} (room : Nat) (ledger : Ledger) (holds : α → Prop)
    (put : Ledger → α → Ledger → Prop) (refused : Diagnosis → Prop) :
    Ledger × Except Fault Bool → Prop where
  /-- The element holds something, and this is put into its place. -/
  | taken {thing : α} {after : Ledger} (held : holds thing) (place : put ledger thing after) :
    Offered room ledger holds put refused (after, .ok true)
  /-- It holds nothing, and all that changes is that one diagnosis is noted down. -/
  | reported {diagnosis : Diagnosis} (unheld : ∀ thing, ¬holds thing) (why : refused diagnosis)
    (shallow : diagnosis.nesting ≤ room) :
    Offered room ledger holds put refused
      ({ ledger with reports := ledger.reports ++ [diagnosis] }, .ok false)
  /-- It holds nothing, and nothing changes at all, since the diagnosis is lost in quoting. -/
  | lost {diagnosis : Diagnosis} (unheld : ∀ thing, ¬holds thing) (why : refused diagnosis)
    (deep : room < diagnosis.nesting) :
    Offered room ledger holds put refused (ledger, .error .tooDeepToQuote)

/-- Looking at instructions one by one comes to the same as reading all of them first. -/
theorem takeBlock_eq (room : Nat) (ledger : Ledger) (address : Address) (block : Block)
    (entries : List Json) :
    ledger.takeBlock room address block entries =
      match entries.mapM Instruction.ofJson? with
      | some found => (ledger.putNode (address, block ++ found), .ok true)
      | none =>
        ledger.report room (.malformedInstruction address (Document.refusedNesting entries)) := by
  -- The ledger is passed on as it is until the entries are used up or one of them is refused.
  induction entries generalizing block with
  | nil => simp [takeBlock]
  | cons entry rest ih =>
    rw [takeBlock, List.mapM_cons]
    cases read : Instruction.ofJson? entry with
    -- The entry is refused on both sides, and it is the first one.
    | none => simp [Document.refusedNesting, read]
    | some instruction =>
      -- A good entry does not change which one is the first to be refused.
      have later : Document.refusedNesting (entry :: rest) = Document.refusedNesting rest := by
        simp [Document.refusedNesting, read]
      dsimp only
      rw [ih, later]
      -- The entries behind it are all good, or one of them is refused.
      cases rest.mapM Instruction.ofJson? with
      | none => rfl
      | some found => simp

/-- A node is taken over step by step as it is when it is read as a whole. -/
theorem takeNode_eq (room : Nat) (ledger : Ledger) (value : Json) :
    ledger.takeNode room value = ledger.settle room ledger.putNode (Document.node value) := by
  -- Both look at the same parts in the same order, up to the instructions.
  unfold takeNode Document.node
  -- A missing field is met first by both.
  rcases value.field? "address" with _ | address
  · rfl
  rcases value.field? "instructions" with _ | instructions
  · rfl
  dsimp only
  -- Then the address is looked at, and then whether the instructions are an array.
  rcases address.address? with _ | start
  · rfl
  rcases instructions.items? with _ | entries
  · rfl
  dsimp only
  -- The instructions are gone through one by one, which comes to reading them all.
  rw [takeBlock_eq]
  rcases entries.mapM Instruction.ofJson? with _ | block
  · rfl
  · rfl

/-- An edge is taken over step by step as it is when it is read as a whole. -/
theorem takeEdge_eq (room : Nat) (ledger : Ledger) (value : Json) :
    ledger.takeEdge room value = ledger.settle room ledger.putEdge (Document.edge value) := by
  -- An edge has no parts but its ends, and these are looked at in the same order as well.
  unfold takeEdge Document.edge
  -- Missing fields come first, as for a node.
  rcases value.field? "source" with _ | source
  · rfl
  rcases value.field? "destination" with _ | destination
  · rfl
  dsimp only
  -- The source is looked at before the destination is.
  rcases source.address? with _ | start
  · rfl
  rcases destination.address? with _ | stop
  · rfl
  · rfl

/-- A diagnosis that can be quoted is noted down behind the others. -/
theorem report_of_le {room : Nat} (ledger : Ledger) {diagnosis : Diagnosis}
    (shallow : diagnosis.nesting ≤ room) :
    ledger.report room diagnosis =
      ({ ledger with reports := ledger.reports ++ [diagnosis] }, .ok false) := by
  -- The room suffices, so the words of the diagnosis are added.
  simp [report, Diagnosis.obstacle?, shallow]

/-- A diagnosis that cannot be quoted leaves the ledger alone. -/
theorem report_of_lt {room : Nat} (ledger : Ledger) {diagnosis : Diagnosis}
    (deep : room < diagnosis.nesting) :
    ledger.report room diagnosis = (ledger, .error .tooDeepToQuote) := by
  -- The room does not suffice, so the fault comes before anything is added.
  simp [report, Diagnosis.obstacle?, Nat.not_le.mpr deep]

/-- What was read as a whole decides what becomes of the ledger and what is answered. -/
theorem offered_settle {α : Type} {room : Nat} {ledger : Ledger} {holds : α → Prop}
    {place : α → Ledger} {put : Ledger → α → Ledger → Prop} {refused : Diagnosis → Prop}
    {read : Except Diagnosis α} (held : ∀ thing, read = .ok thing ↔ holds thing)
    (places : ∀ thing, put ledger thing (place thing))
    (refuses : ∀ diagnosis, read = .error diagnosis → refused diagnosis) :
    Offered room ledger holds put refused (ledger.settle room place read) := by
  -- Reading answers with what is held or with why nothing is, and the depth decides the rest.
  cases read with
  | ok thing => exact .taken ((held thing).mp rfl) (places thing)
  | error diagnosis =>
    -- Nothing is held, since reading would have found it.
    have unheld : ∀ thing, ¬holds thing := by
      intro thing holds
      cases (held thing).mpr holds
    have why : refused diagnosis := refuses diagnosis rfl
    rw [settle]
    rcases Nat.lt_or_ge room diagnosis.nesting with deep | shallow
    · rw [report_of_lt ledger deep]
      exact .lost unheld why deep
    · rw [report_of_le ledger shallow]
      exact .reported unheld why shallow

/-- Putting a node into its place changes nothing else. -/
theorem nodePut_putNode (ledger : Ledger) (node : Address × Block) :
    NodePut ledger node (ledger.putNode node) where
  nodes := Distinct.insert_eq_ite ledger.nodes node.1
  adjacency := rfl
  block := by simp [putNode, Blocks.get?_set]
  others := by
    -- Any other address keeps the block that it has.
    intro other different
    simp [putNode, Blocks.get?_set, different.symm]
  reports := rfl

/-- Putting an edge into its place changes nothing else where the edges of a graph are kept. -/
theorem edgePut_putEdge {ledger : Ledger} {graph : Graph}
    (registers : ledger.adjacency.Registers graph) (edge : Edge) :
    EdgePut ledger edge (ledger.putEdge edge) := by
  -- What is registered before and after is what the edges of the graph join.
  have after : (ledger.putEdge edge).adjacency.Registers (graph.addEdge edge) :=
    registers.addEdge edge
  have edges : (graph.addEdge edge).edges = Distinct.insert graph.edges edge := rfl
  refine ⟨rfl, ?_, ?_, ?_, rfl, rfl⟩
  · rw [after.edges, edges, registers.edges]
    exact Distinct.insert_eq_ite graph.edges edge
  · intro address child
    rw [after.children, edges, Distinct.mem_insert, registers.children]
  · intro address parent
    rw [after.parents, edges, Distinct.mem_insert, registers.parents]

/-- The edge that a function is given is put into the function's ledger. -/
theorem ofFunction_addEdge (function : Flowgraph) (reports : List Diagnosis) (edge : Edge) :
    ofFunction (function.addEdge edge) reports = (ofFunction function reports).putEdge edge := by
  -- The edges are registered in the order in which the function lists them.
  have kept : (Adjacency.ofEdges function.edges).edges = function.edges :=
    (Adjacency.registers_ofEdges function.toGraph).edges
  have listed : (function.addEdge edge).edges = Distinct.insert function.edges edge := rfl
  have registered : Adjacency.ofEdges (Distinct.insert function.edges edge) =
      (Adjacency.ofEdges function.edges).addEdge edge := by
    rw [Distinct.insert_eq_ite]
    split
    · -- An edge that is there already is registered already.
      next present => rw [Adjacency.addEdge, kept, if_pos present]
    · rw [Adjacency.ofEdges, List.foldl_append]
      rfl
  rw [ofFunction, listed, registered]
  rfl

/-- The ledger that is settled is the one of what the function has become. -/
theorem settle_eq_ofResult {α : Type} (room : Nat) (function : Flowgraph)
    (reports : List Diagnosis) (place : Flowgraph → α → Flowgraph) {put : α → Ledger}
    (placed : ∀ thing, ofFunction (place function thing) reports = put thing)
    (read : Except Diagnosis α) :
    (ofFunction function reports).settle room put read =
      ofResult room reports (match read with
        | .ok thing => (place function thing, none)
        | .error diagnosis => (function, some diagnosis)) := by
  -- A diagnosis is noted down on one side as far as it can be quoted on the other.
  cases read with
  | ok thing => simp [settle, ofResult, Document.diagnosed, placed]
  | error diagnosis =>
    rw [settle]
    rcases Nat.lt_or_ge room diagnosis.nesting with deep | shallow
    · rw [report_of_lt _ deep]
      simp [ofResult, Document.diagnosed, Diagnosis.obstacle?, Nat.not_le.mpr deep]
    · rw [report_of_le _ shallow]
      simp [ofResult, Document.diagnosed, Diagnosis.obstacle?, shallow, ofFunction]

/--
An element is taken over as a whole or not at all, and nothing changes but what it holds.

The ledger has the children and the parents of the function. Looking at the parts of an element one
after another makes of it what taking over the element makes of the function. If the answer is yes,
what the element holds has come into its place. If it is no, all is stored as before and one
diagnosis is noted down, and if there is no answer, then nothing at all has changed.
-/
theorem take_framed (room : Nat) (function : Flowgraph) (reports : List Diagnosis) (value : Json) :
    let ledger := ofFunction function reports
    (∀ address, Ascending.sort (ledger.adjacency.children address) = function.children address ∧
      Ascending.sort (ledger.adjacency.parents address) = function.parents address) ∧
    ledger.takeNode room value = ofResult room reports (function.addNodeJson value) ∧
    Offered room ledger (Document.HoldsNode value) NodePut (Document.RefusedNode value)
      (ledger.takeNode room value) ∧
    ledger.takeEdge room value = ofResult room reports (function.addEdgeJson value) ∧
    Offered room ledger (Document.HoldsEdge value) EdgePut (Document.RefusedEdge value)
      (ledger.takeEdge room value) := by
  intro ledger
  have registers : ledger.adjacency.Registers function.toGraph :=
    Adjacency.registers_ofEdges function.toGraph
  -- Each element is read as a whole first, for the function as well as for the ledger.
  rw [takeNode_eq, takeEdge_eq]
  refine ⟨?_, ?_, ?_, ?_, ?_⟩
  · -- The registers of the ledger are sorted when they are asked for.
    intro address
    exact ⟨registers.sort_children address, registers.sort_parents address⟩
  · -- A node that is put into the ledger is placed in the function.
    have nodes : ∀ node, ofFunction (Document.placeNode function node) reports =
        ledger.putNode node := fun _ => rfl
    rw [settle_eq_ofResult room function reports Document.placeNode nodes, Flowgraph.addNodeJson]
    rcases Document.node value with diagnosis | node
    · rfl
    · rfl
  · -- What an offered node does is known from what a value holds.
    exact offered_settle (fun _ => Document.node_eq_ok_iff) (nodePut_putNode ledger)
      fun _ => Document.refusedNode_of_node_eq_error
  · -- An edge that is put into the ledger is added to the function.
    have edges := ofFunction_addEdge function reports
    rw [settle_eq_ofResult room function reports Flowgraph.addEdge edges, Flowgraph.addEdgeJson]
    rcases Document.edge value with diagnosis | edge
    · rfl
    · rfl
  · -- What an offered edge does is known in the same way.
    exact offered_settle (fun _ => Document.edge_eq_ok_iff)
      (edgePut_putEdge registers) fun _ => Document.refusedEdge_of_edge_eq_error

/-- A known node whose last instruction is malformed keeps its block and is reported once. -/
example :
    let function := Flowgraph.build [.node 16, .block 16 [⟨"nop", []⟩], .edge (16, 32)]
    let ledger := ofFunction function [.notArrays]
    let value : Json := .object [("address", .integer 16), ("instructions", .array [
      .object [("mnemonic", .string "push"), ("operands", .array [.string "rbp"])],
      .object [("mnemonic", .string "pop")]])]
    ledger.takeNode Diagnosis.maxNesting value =
      ({ ledger with reports := [.notArrays, .malformedInstruction 16 2] }, .ok false) := by
  rfl

end Ledger

end Flowprint
