import Flowprint.Document.Diagnosis
import Flowprint.Flowgraph.Basic
import Flowprint.Json.Reader

/-! Documents are taken over node by node, then edge by edge, up to the first malformed element. -/

namespace Flowprint

/-- The address that a value holds: an unsigned 64-bit integer, written as one. -/
def Json.address? : Json → Option Address
  | .integer value => if Address.Documented value then some value else none
  | _ => none

/-- The instruction that a value holds: a mnemonic that is not empty, and texts as operands. -/
def Instruction.ofJson? (value : Json) : Option Instruction := do
  -- Fields of other names do not matter.
  let mnemonic ← (← value.field? "mnemonic").text?
  let operands ← (← (← value.field? "operands").items?).mapM Json.text?
  if mnemonic = "" then none else some ⟨mnemonic, operands⟩

namespace Document

/-- How deep the first of some values nests that holds no instruction. -/
def refusedNesting (entries : List Json) : Nat :=
  ((entries.find? fun entry => (Instruction.ofJson? entry).isNone).map Json.nesting).getD 0

/-- The node that a value holds, with all of its instructions. -/
def node (value : Json) : Except Diagnosis (Address × Block) :=
  -- Missing fields are found before bad ones, and the address before the instructions.
  match value.field? "address", value.field? "instructions" with
  | some address, some instructions =>
    match address.address?, instructions.items? with
    | some start, some entries =>
      match entries.mapM Instruction.ofJson? with
      | some block => .ok (start, block)
      | none => .error (.malformedInstruction start (refusedNesting entries))
    | _, _ => .error (.nodeInvalid address.nesting)
  | _, _ => .error .nodeMissingFields

/-- The edge that a value holds; its ends need not be nodes. -/
def edge (value : Json) : Except Diagnosis Edge :=
  match value.field? "source", value.field? "destination" with
  | some source, some destination =>
    match source.address?, destination.address? with
    | some start, some stop => .ok (start, stop)
    | _, _ => .error (.edgeInvalid (max source.nesting destination.nesting))
  | _, _ => .error .edgeMissingFields

/-- Takes over one element after another and stops at the first that is refused. -/
def addAll (add : Flowgraph → Json → Flowgraph × Option Diagnosis) (function : Flowgraph) :
    List Json → Flowgraph × Option Diagnosis
  | [] => (function, none)
  | value :: rest =>
    match add function value with
    | (next, none) => addAll add next rest
    | (next, some diagnosis) => (next, some diagnosis)

/-- A document is an object with nodes and edges, whatever they are. -/
def hasFields (document : Json) : Bool :=
  (document.field? "nodes").isSome && (document.field? "edges").isSome

/-- What was taken over, unless the diagnosis quotes a value that nests more than `room` deep. -/
def diagnosed (room : Nat) (result : Flowgraph × Option Diagnosis) :
    Except Fault (Flowgraph × Option Diagnosis) :=
  match result.2.bind (Diagnosis.obstacle? room) with
  | some fault => .error fault
  | none => .ok result

end Document

namespace Flowgraph

/-- Takes over a node with its block, or nothing at all if any part of it is malformed. -/
def addNodeJson (function : Flowgraph) (value : Json) : Flowgraph × Option Diagnosis :=
  match Document.node value with
  | .ok (address, block) => ((function.addNode address).setBlock address block, none)
  | .error diagnosis => (function, some diagnosis)

/-- Takes over an edge, or nothing if it is malformed. -/
def addEdgeJson (function : Flowgraph) (value : Json) : Flowgraph × Option Diagnosis :=
  match Document.edge value with
  | .ok edge => (function.addEdge edge, none)
  | .error diagnosis => (function, some diagnosis)

/--
Takes over a document, all nodes before all edges.

What stands before the first malformed element stays in the function.
-/
def addDocument (function : Flowgraph) (document : Json) : Flowgraph × Option Diagnosis :=
  -- Both fields are looked at before any element is.
  match document.field? "nodes", document.field? "edges" with
  | some nodes, some edges =>
    match nodes.items?, edges.items? with
    | some nodes, some edges =>
      match Document.addAll addNodeJson function nodes with
      | (function, none) => Document.addAll addEdgeJson function edges
      | refused => refused
    | _, _ => (function, some .notArrays)
  | _, _ => (function, some .missingFields)

/-- The function that a value holds, if it is JSON at all. -/
def ofJson? : Option Json → Flowgraph × Option Diagnosis
  | some document =>
    -- The fields are looked for here, and once more where the document is taken over.
    if Document.hasFields document then empty.addDocument document
    else (empty, some .missingFields)
  | none => (empty, some .notJson)

/-- The two looks at the fields agree, so the first one refuses nothing that the second does not. -/
@[simp] theorem ofJson?_some (document : Json) :
    ofJson? (some document) = empty.addDocument document := by
  rw [ofJson?, Document.hasFields, addDocument]
  -- Where either field is missing, both looks give the same words and leave the function empty.
  cases document.field? "nodes" <;> cases document.field? "edges" <;> rfl

/-- The function that a text holds. -/
def ofText (text : String) : Flowgraph × Option Diagnosis := ofJson? (Json.read? text)

/-- The function that the bytes of a file hold. -/
def ofBytes (bytes : ByteArray) : Flowgraph × Option Diagnosis := ofJson? (Json.readBytes? bytes)

end Flowgraph

end Flowprint
