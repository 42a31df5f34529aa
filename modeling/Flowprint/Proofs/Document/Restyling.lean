import Flowprint.Flowgraph.Edit
import Flowprint.Proofs.Document.Acceptance
import Flowprint.Proofs.Json.Shape

/-!
Unknown fields and the order of keys do not matter in a document.

They decide nothing but the depth of what a diagnosis quotes, and so whether it can be quoted.
-/

namespace Flowprint

namespace Document

open Json

/-- Of an instruction its mnemonic and its operands are looked at. -/
def instructionShape : Shape := .object fun
  | "mnemonic" => .whole
  | "operands" => .whole
  | _ => .unknown

/-- Of a node its address is looked at, and each of its instructions. -/
def nodeShape : Shape := .object fun
  | "address" => .whole
  | "instructions" => .array instructionShape
  | _ => .unknown

/-- Of an edge both ends are looked at. -/
def edgeShape : Shape := .object fun
  | "source" => .whole
  | "destination" => .whole
  | _ => .unknown

/-- Of a document its nodes and its edges are looked at, each of them by itself. -/
def documentShape : Shape := .object fun
  | "nodes" => .array nodeShape
  | "edges" => .array edgeShape
  | _ => .unknown

/-- The same diagnosis, except that a malformed instruction may nest less deep. -/
inductive Eases : Diagnosis → Diagnosis → Prop where
  /-- Nothing else is different either. -/
  | same (diagnosis : Diagnosis) : Eases diagnosis diagnosis
  /-- The instruction is quoted as it stands, so unknown fields count in its depth. -/
  | malformedInstruction (start : Address) {deep shallow : Nat} (bound : shallow ≤ deep) :
    Eases (.malformedInstruction start deep) (.malformedInstruction start shallow)

/-- The same function is reached, and it comes to the same diagnosis but for the depth. -/
inductive Agrees : Flowgraph × Option Diagnosis → Flowgraph × Option Diagnosis → Prop where
  /-- Everything was taken over on both sides. -/
  | complete (function : Flowgraph) : Agrees (function, none) (function, none)
  /-- Both sides came to a halt at the same place. -/
  | halted (function : Flowgraph) {why lighter : Diagnosis} (eases : Eases why lighter) :
    Agrees (function, some why) (function, some lighter)

variable {value other : Json}

/-- What stands under a key that is taken as a whole is not restyled. -/
theorem field?_eq_of_whole {under : String → Shape}
    (restyled : (Shape.object under).Restyles value other) (key : String)
    (whole : under key = .whole) : other.field? key = value.field? key := by
  -- Such a value is its own and only reordering.
  have matched := restyled.field? whole rfl
  generalize value.field? key = first at matched ⊢
  generalize other.field? key = second at matched ⊢
  cases matched with
  | none => rfl
  | some same =>
    cases same
    rfl

/-- A restyled value holds the same instruction, or it still holds none. -/
theorem ofJson?_restyled (restyled : instructionShape.Restyles value other) :
    Instruction.ofJson? other = Instruction.ofJson? value := by
  -- Reading an instruction looks up both keys and nothing else.
  have mnemonic := field?_eq_of_whole restyled "mnemonic" rfl
  have operands := field?_eq_of_whole restyled "operands" rfl
  rw [Instruction.ofJson?, Instruction.ofJson?, mnemonic, operands]

/-- Restyled instructions hold the same block, or the same one of them is the first bad one. -/
theorem block_restyled {entries others : List Json}
    (all : List.Forall₂ instructionShape.Restyles entries others) :
    others.mapM Instruction.ofJson? = entries.mapM Instruction.ofJson? ∧
      refusedNesting others ≤ refusedNesting entries := by
  induction all with
  | nil => exact ⟨rfl, Nat.le_refl _⟩
  | @cons entry other entries others first _ ih =>
    obtain ⟨block, shallower⟩ := ih
    have same := ofJson?_restyled first
    refine ⟨by rw [List.mapM_cons, List.mapM_cons, same, block], ?_⟩
    -- The first bad instruction is the same one, and it has lost nothing but depth.
    cases read : Instruction.ofJson? entry with
    | none => simpa [refusedNesting, same, read] using first.nesting_le
    | some instruction => simpa [refusedNesting, same, read] using shallower

/-- A restyled value holds the same node, or it is refused for the same reason. -/
theorem node_restyled (restyled : nodeShape.Restyles value other) :
    (∃ held, node value = .ok held ∧ node other = .ok held) ∨
    ∃ why lighter, node value = .error why ∧ node other = .error lighter ∧ Eases why lighter := by
  -- The address is read before the instructions, and each check sees the same on both sides.
  have address := field?_eq_of_whole restyled "address" rfl
  have instructions : Option.Rel (Shape.array instructionShape).Restyles
      (value.field? "instructions") (other.field? "instructions") := restyled.field? rfl rfl
  rw [node, node, address]
  generalize value.field? "address" = atAddress
  generalize value.field? "instructions" = atInstructions at instructions ⊢
  generalize other.field? "instructions" = reatInstructions at instructions ⊢
  cases atAddress with
  -- Without an address both are refused for the missing field.
  | none => exact Or.inr ⟨_, _, rfl, rfl, .same _⟩
  | some address =>
    cases instructions with
    -- Without instructions both are refused for the missing field.
    | none => exact Or.inr ⟨_, _, rfl, rfl, .same _⟩
    | some restyles =>
      dsimp only
      rcases restyles.array_cases with ⟨entries, others, rfl, rfl, all⟩ | ⟨noArray, rfl⟩
      · -- The instructions are an array on both sides, entry by entry.
        obtain ⟨block, shallower⟩ := block_restyled all
        rw [items?, items?]
        cases address.address? with
        -- The address is refused on both sides before the entries are looked at.
        | none => exact Or.inr ⟨_, _, rfl, rfl, .same _⟩
        | some start =>
          dsimp only
          rw [block]
          cases entries.mapM Instruction.ofJson? with
          -- The first malformed entry is the same one, and it may be less deep.
          | none => exact Or.inr ⟨_, _, rfl, rfl, .malformedInstruction start shallower⟩
          -- The same block is read.
          | some block => exact Or.inl ⟨_, rfl, rfl⟩
      · -- The instructions are no array on either side.
        rw [noArray]
        cases address.address? <;> exact Or.inr ⟨_, _, rfl, rfl, .same _⟩

/-- A restyled value holds the same edge, or it is refused for the same reason. -/
theorem edge_restyled (restyled : edgeShape.Restyles value other) : edge other = edge value := by
  -- Both ends are taken as they stand.
  have source := field?_eq_of_whole restyled "source" rfl
  have destination := field?_eq_of_whole restyled "destination" rfl
  rw [edge, edge, source, destination]

/-- What is the same on both sides agrees. -/
theorem agrees_refl (result : Flowgraph × Option Diagnosis) : Agrees result result := by
  -- The result has a diagnosis or none.
  rcases result with ⟨function, _ | diagnosis⟩
  · exact .complete function
  · exact .halted function (.same diagnosis)

/-- A restyled node is taken over like the node itself. -/
theorem addNodeJson_restyled (function : Flowgraph) (restyled : nodeShape.Restyles value other) :
    Agrees (function.addNodeJson value) (function.addNodeJson other) := by
  -- The node is held on both sides or refused on both sides.
  rw [Flowgraph.addNodeJson, Flowgraph.addNodeJson]
  rcases node_restyled restyled with ⟨held, one, two⟩ | ⟨why, lighter, one, two, eases⟩
  · rw [one, two]
    exact agrees_refl _
  · rw [one, two]
    exact .halted function eases

/-- A restyled edge is taken over like the edge itself. -/
theorem addEdgeJson_restyled (function : Flowgraph) (restyled : edgeShape.Restyles value other) :
    Agrees (function.addEdgeJson value) (function.addEdgeJson other) := by
  -- Reading an edge gives exactly the same on both sides.
  rw [Flowgraph.addEdgeJson, Flowgraph.addEdgeJson, edge_restyled restyled]
  exact agrees_refl _

/-- Elements that are taken over alike one by one are taken over alike together. -/
theorem addAll_restyled {add : Flowgraph → Json → Flowgraph × Option Diagnosis} {shape : Shape}
    (step : ∀ function {value other}, shape.Restyles value other →
      Agrees (add function value) (add function other))
    {values others : List Json} (all : List.Forall₂ shape.Restyles values others)
    (function : Flowgraph) : Agrees (addAll add function values) (addAll add function others) := by
  -- The induction follows the worker, which stops at the first diagnosis on both sides.
  induction all generalizing function with
  | nil => exact agrees_refl _
  | @cons value other _ _ first _ ih =>
    have agree := step function first
    rw [addAll, addAll]
    generalize add function value = result at agree ⊢
    generalize add function other = reresult at agree ⊢
    cases agree with
    | complete next => exact ih next
    | halted next eases => exact .halted next eases

/-- A restyled document is taken over like the document itself. -/
theorem addDocument_agrees (function : Flowgraph) (restyled : documentShape.Restyles value other) :
    Agrees (function.addDocument value) (function.addDocument other) := by
  -- The two fields are restyled with the document, and they are all that is looked at.
  have nodes : Option.Rel (Shape.array nodeShape).Restyles
      (value.field? "nodes") (other.field? "nodes") := restyled.field? rfl rfl
  have edges : Option.Rel (Shape.array edgeShape).Restyles
      (value.field? "edges") (other.field? "edges") := restyled.field? rfl rfl
  rw [Flowgraph.addDocument, Flowgraph.addDocument]
  generalize value.field? "nodes" = atNodes at nodes ⊢
  generalize other.field? "nodes" = reatNodes at nodes ⊢
  generalize value.field? "edges" = atEdges at edges ⊢
  generalize other.field? "edges" = reatEdges at edges ⊢
  cases nodes with
  -- A missing field is missing on both sides.
  | none => exact agrees_refl _
  | some nodes =>
    cases edges with
    | none => exact agrees_refl _
    | some edges =>
      dsimp only
      rcases nodes.array_cases with ⟨values, others, rfl, rfl, allNodes⟩ | ⟨noNodes, rfl⟩
      · rcases edges.array_cases with
          ⟨edgeValues, reedgeValues, rfl, rfl, allEdges⟩ | ⟨noEdges, rfl⟩
        · -- The edges are only reached where no node was refused, from the same function.
          have agree := addAll_restyled (fun function => addNodeJson_restyled function)
            allNodes function
          rw [items?, items?, items?, items?]
          dsimp only
          generalize addAll Flowgraph.addNodeJson function values = result at agree ⊢
          generalize addAll Flowgraph.addNodeJson function others = reresult at agree ⊢
          cases agree with
          -- All nodes were taken over, so the edges go on from the same function.
          | complete middle =>
            exact addAll_restyled (fun function => addEdgeJson_restyled function) allEdges middle
          -- A node was refused, so the edges are not reached on either side.
          | halted middle eases => exact .halted middle eases
        · -- The edges are no array on either side.
          rw [noEdges]
          exact agrees_refl _
      · -- The nodes are no array on either side.
        rw [noNodes]
        exact agrees_refl _

/-- What is seen of taking over a document: what the function became, and what is said of it. -/
def seen (room : Nat) (result : Flowgraph × Option Diagnosis) :
    Except Fault (Flowgraph × Option String) :=
  -- The depth of what is quoted is not seen, unless the quotation fails.
  (diagnosed room result).map fun result => (result.1, result.2.map Diagnosis.message)

/-- A diagnosis is seen in its words as long as what it quotes is not too deep. -/
theorem seen_of_le {room : Nat} (function : Flowgraph) {diagnosis : Diagnosis}
    (shallow : diagnosis.nesting ≤ room) :
    seen room (function, some diagnosis) = .ok (function, some diagnosis.message) := by
  -- The room suffices, so the words are what is seen.
  simp [seen, diagnosed, Diagnosis.obstacle?, shallow, Except.map]

/-- Nothing is seen of a diagnosis that quotes what is too deep. -/
theorem seen_of_lt {room : Nat} (function : Flowgraph) {diagnosis : Diagnosis}
    (deep : room < diagnosis.nesting) :
    seen room (function, some diagnosis) = .error .tooDeepToQuote := by
  -- The room does not suffice, so a fault is what is seen.
  simp [seen, diagnosed, Diagnosis.obstacle?, Nat.not_le.mpr deep, Except.map]

/-- An easier diagnosis is in the same words. -/
theorem Eases.message_eq {why lighter : Diagnosis} (eases : Eases why lighter) :
    lighter.message = why.message := by
  -- The depth is not part of the message.
  cases eases <;> rfl

/--
A document without its unknown fields and with its keys in another order is taken over alike.

The function becomes the same, and the diagnosis is in the same words, if there is one. What is
seen differs only by a malformed instruction whose unknown fields make it too deep to be quoted.
-/
theorem addDocument_restyled (room : Nat) (function : Flowgraph) {document other : Json}
    (restyled : documentShape.Reorders (documentShape.strip document) other) :
    let result := function.addDocument document
    let reresult := function.addDocument other
    reresult.1 = result.1 ∧
    reresult.2.map Diagnosis.message = result.2.map Diagnosis.message ∧
    (seen room reresult = seen room result ↔ ∀ start deep shallow,
      result.2 = some (.malformedInstruction start deep) →
      reresult.2 = some (.malformedInstruction start shallow) →
      shallow ≤ room → deep ≤ room) := by
  intro result reresult
  have agrees : Agrees result reresult := addDocument_agrees function restyled
  generalize result = one at agrees ⊢
  generalize reresult = two at agrees ⊢
  cases agrees with
  | complete function => simp
  | halted function eases =>
    refine ⟨rfl, congrArg some eases.message_eq, ?_⟩
    cases eases with
    | same diagnosis =>
      -- The very same diagnosis can be quoted on both sides or on neither.
      refine ⟨?_, fun _ => rfl⟩
      rintro - start deep shallow ⟨⟩ ⟨⟩ bound
      exact bound
    | @malformedInstruction start deep shallow shallower =>
      constructor
      · -- A fault on one side only would be seen.
        rintro alike _ _ _ ⟨⟩ ⟨⟩ bound
        by_contra tooDeep
        rw [seen_of_le function bound, seen_of_lt function (Nat.not_le.mp tooDeep)] at alike
        cases alike
      · intro quotable
        by_cases bound : shallow ≤ room
        · have also : deep ≤ room := quotable start deep shallow rfl rfl bound
          rw [seen_of_le function bound, seen_of_le function also]
          rfl
        · -- What is too deep without its unknown fields is too deep with them.
          have also : room < deep := by omega
          rw [seen_of_lt function (Nat.not_le.mp bound), seen_of_lt function also]

/-- Unknown fields at every depth and all keys in another order, with a bad edge at the end. -/
theorem addDocument_restyled_badEdge :
    let instruction : Json :=
      .object [("mnemonic", .string "nop"), ("comment", .null), ("operands", .array [])]
    let node : Json := .object
      [("name", .string "f"), ("address", .integer 1), ("instructions", .array [instruction])]
    let edge (source : Int) : Json :=
      .object [("source", .integer source), ("weight", .array []), ("destination", .integer 2)]
    let document : Json :=
      .object [("nodes", .array [node]), ("edges", .array [edge 1, edge (-1)]), ("version", .null)]
    let reinstruction : Json := .object [("operands", .array []), ("mnemonic", .string "nop")]
    let renode : Json :=
      .object [("instructions", .array [reinstruction]), ("address", .integer 1)]
    let reedge (source : Int) : Json :=
      .object [("destination", .integer 2), ("source", .integer source)]
    let other : Json :=
      .object [("edges", .array [reedge 1, reedge (-1)]), ("nodes", .array [renode])]
    let function := Flowgraph.build [.node 7]
    documentShape.Reorders (documentShape.strip document) other ∧
    seen Diagnosis.maxNesting (function.addDocument other) =
      .ok (Flowgraph.build [.node 7, .node 1, .block 1 [⟨"nop", []⟩], .edge (1, 2)],
        some "Edge has an invalid address") := by
  intro instruction node edge document reinstruction renode reedge other function
  -- Every object has two known fields, and in each of them these change places.
  have reorders : documentShape.Reorders (documentShape.strip document) other := by
    have anInstruction : instructionShape.Reorders (instructionShape.strip instruction)
        reinstruction := Shape.reorders_swap (by decide) rfl rfl
    have aNode : nodeShape.Reorders (nodeShape.strip node) renode :=
      Shape.reorders_swap (by decide) rfl (.cons anInstruction .nil)
    have ends : "source" ≠ "destination" := by decide
    have anEdge (source : Int) :
        edgeShape.Reorders (edgeShape.strip (edge source)) (reedge source) :=
      Shape.reorders_swap ends rfl rfl
    exact Shape.reorders_swap (by decide) (.cons aNode .nil)
      (.cons (anEdge 1) (.cons (anEdge (-1)) .nil))
  -- No instruction is malformed, so the condition on what is seen holds.
  have why : (function.addDocument document).2 = some (.edgeInvalid 1) := rfl
  -- The theorem is applied to the two documents, and the first of them is evaluated.
  obtain ⟨reached, words, alike⟩ := addDocument_restyled Diagnosis.maxNesting function reorders
  refine ⟨reorders, (alike.mpr ?_).trans ?_⟩
  · intro start deep shallow malformed
    rw [why] at malformed
    cases malformed
  · decide +kernel

/-- A field that is unknown, and yet the answer is lost in quoting it. -/
theorem addDocument_deepUnknownField :
    let instruction (unknown : List (String × Json)) : Json :=
      .object (("mnemonic", .string "") :: ("operands", .array []) :: unknown)
    let document (unknown : List (String × Json)) : Json :=
      .object [("nodes", .array [
        .object [("address", .integer 1), ("instructions", .array [instruction unknown])]]),
        ("edges", .array [])]
    let deep := document [("note", arrays 1014)]
    documentShape.strip deep = document [] ∧ documentShape.Reorders (document []) (document []) ∧
    seen Diagnosis.maxNesting (Flowgraph.empty.addDocument deep) = .error .tooDeepToQuote ∧
    seen Diagnosis.maxNesting (Flowgraph.empty.addDocument (document [])) =
      .ok (.empty, some "Node 0x1 has a malformed instruction") := by
  intro instruction document deep
  refine ⟨rfl, Shape.reorders_refl _ _, ?_, ?_⟩
  · -- The unknown field is the deepest part of what is quoted.
    have taken : Flowgraph.empty.addDocument deep = (.empty, some (.malformedInstruction 1
        (instruction [("note", arrays 1014)]).nesting)) := rfl
    have nesting : (instruction [("note", arrays 1014)]).nesting = 1016 := by
      simp [instruction, Json.nesting, Json.nestingUnder, Json.nestingAmong, nesting_arrays]
    rw [taken, nesting]
    exact seen_of_lt _ (by decide)
  · decide +kernel

end Document

end Flowprint
