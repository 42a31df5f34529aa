import Flowprint.Document.Decode
import Flowprint.Feature.Collection
import Flowprint.Workspace.Subject

/-!
A workspace holds subjects, and generators that read them while they change.

Both are known by number, in order of making, and a generator keeps the number of its subject.
-/

namespace Flowprint

/-- Everything that is being worked on. -/
structure Workspace where
  /-- The subjects by number. -/
  subjects : List Subject := []
  /-- The generators by number, each with the number of its subject. -/
  generators : List (Nat × Generator) := []

/-- Something that is done in a workspace. -/
inductive Action where
  /-- Puts a new subject into the workspace. -/
  | store (subject : Subject)
  /-- Edits a subject. -/
  | edit (subject : Nat) (edit : Edit)
  /-- Extends a block that has to be there. -/
  | extend (subject : Nat) (address : Address) (instruction : Instruction)
  /-- Takes over a node from a document. -/
  | takeNode (subject : Nat) (value : Json)
  /-- Takes over an edge from a document. -/
  | takeEdge (subject : Nat) (value : Json)
  /-- Takes over a whole document. -/
  | takeDocument (subject : Nat) (document : Json)
  /-- Makes a generator for a subject as it is now. -/
  | generate (subject : Nat)
  /-- Asks a generator for its next subgraph. -/
  | nextSubgraph (generator : Nat)
  /-- Asks a generator for its next mnemonic tuple. -/
  | nextTuple (generator : Nat)
  /-- Asks a generator for some subgraphs, or for all that are left. -/
  | takeSubgraphs (generator : Nat) (count : Option Nat)
  /-- Asks a generator for some mnemonic tuples, or for all that are left. -/
  | takeTuples (generator : Nat) (count : Option Nat)
  /-- Collects all features that a generator has left. -/
  | collect (generator : Nat) (nodeCount : Int)

/-- What an action answers. -/
inductive Reply where
  /-- It is done. -/
  | done
  /-- Something new has this number. -/
  | made (number : Nat)
  /-- A document, or a part of one, was taken over, perhaps not completely. -/
  | taken (diagnosis : Option Diagnosis)
  /-- The subgraphs asked for, each with its center. -/
  | subgraphs (pulled : List (Graph × Address))
  /-- The mnemonic tuples asked for. -/
  | tuples (pulled : List (List String))
  /-- The features collected. -/
  | features (features : Features)
  /-- The action has no result. -/
  | fault (fault : Fault)
  /-- Nothing has the number. -/
  | absent

namespace Workspace

/-- Replaces a subject. -/
def setSubject (workspace : Workspace) (number : Nat) (subject : Subject) : Workspace :=
  { workspace with subjects := workspace.subjects.set number subject }

/-- Replaces a generator by what is left of it. -/
def setGenerator (workspace : Workspace) (number : Nat) (left : Generator) : Workspace :=
  { workspace with
    generators := workspace.generators.modify number fun entry => (entry.1, left) }

/-- A generator together with the graph of its subject as it is now. -/
def generator? (workspace : Workspace) (number : Nat) : Option (Generator × Graph) := do
  let (subject, generator) ← workspace.generators[number]?
  let subject ← workspace.subjects[subject]?
  return (generator, subject.graph)

/-- Answers a request with the function of a subject, which is not there if the subject is bare. -/
def request (workspace : Workspace) (number : Nat) (request : CodeRequest)
    (answer : Flowgraph → Workspace × Reply) : Workspace × Reply :=
  match workspace.subjects[number]? with
  | none => (workspace, .absent)
  | some subject =>
    match subject.function request with
    | .ok function => answer function
    | .error fault => (workspace, .fault fault)

/-- Takes over some part of a document into a subject. -/
def take (workspace : Workspace) (number : Nat) (request : CodeRequest)
    (add : Flowgraph → Flowgraph × Option Diagnosis) : Workspace × Reply :=
  workspace.request number request fun function =>
    -- What was taken over stays even if there is no diagnosis of the rest.
    let (function, diagnosis) := add function
    (workspace.setSubject number (.coded function),
      match diagnosis.bind (Diagnosis.obstacle? Diagnosis.maxNesting) with
      | some fault => .fault fault
      | none => .taken diagnosis)

/-- Asks a generator for something, with the graph as it is now. -/
def ask (workspace : Workspace) (number : Nat)
    (question : Generator → Graph → Reply × Generator) : Workspace × Reply :=
  match workspace.generator? number with
  | none => (workspace, .absent)
  | some (generator, graph) =>
    let (reply, left) := question generator graph
    (workspace.setGenerator number left, reply)

/-- The reply to a question that a generator may have no answer to; it then stays as it is. -/
def answered {α : Type} (generator : Generator) (reply : α → Reply)
    (result : Except Fault (α × Generator)) : Reply × Generator :=
  match result with
  | .ok (value, left) => (reply value, left)
  | .error fault => (.fault fault, generator)

/-- One action: the workspace after it, and its answer. -/
def act (workspace : Workspace) : Action → Workspace × Reply
  | .store subject =>
    ({ workspace with subjects := workspace.subjects ++ [subject] },
      .made workspace.subjects.length)
  -- An edit that fails leaves its subject as it was.
  | .edit number edit =>
    match workspace.subjects[number]? with
    | none => (workspace, .absent)
    | some subject =>
      match subject.edit edit with
      | .ok subject => (workspace.setSubject number subject, .done)
      | .error fault => (workspace, .fault fault)
  -- Appending is refused where there is no block, so it is an action of its own.
  | .extend number address instruction =>
    workspace.request number .blocks fun function =>
      match function.extendBlock address instruction with
      | .ok function => (workspace.setSubject number (.coded function), .done)
      | .error fault => (workspace, .fault fault)
  | .takeNode number value => workspace.take number .takeNode (·.addNodeJson value)
  | .takeEdge number value => workspace.take number .takeEdge (·.addEdgeJson value)
  | .takeDocument number document =>
    workspace.take number .takeDocument (·.addDocument document)
  -- A generator keeps the number of its subject, not a copy of it.
  | .generate number =>
    workspace.request number .blocks fun function =>
      ({ workspace with
          generators := workspace.generators ++ [(number, Generator.new function)] },
        .made workspace.generators.length)
  | .nextSubgraph number =>
    workspace.ask number fun generator graph =>
      answered generator (fun pulled => .subgraphs [pulled]) (generator.nextSubgraph graph)
  | .nextTuple number =>
    workspace.ask number fun generator _ =>
      answered generator (fun tuple => .tuples [tuple]) generator.nextTuple
  -- Without a count, all that is left is taken.
  | .takeSubgraphs number count =>
    workspace.ask number fun generator graph =>
      let (pulled, left) :=
        generator.takeSubgraphs graph (count.getD generator.requests.length)
      (.subgraphs pulled, left)
  | .takeTuples number count =>
    workspace.ask number fun generator _ =>
      let (pulled, left) := generator.takeTuples (count.getD generator.tuples.length)
      (.tuples pulled, left)
  -- Collecting may fail halfway, and then the generator is left where it stopped.
  | .collect number nodeCount =>
    workspace.ask number fun generator graph =>
      match Features.collect generator graph nodeCount with
      | (.ok features, left) => (.features features, left)
      | (.error fault, left) => (.fault fault, left)

/-- A series of actions: the workspace after them, and their answers in order. -/
def actAll (workspace : Workspace) : List Action → Workspace × List Reply
  | [] => (workspace, [])
  | action :: rest =>
    let (next, reply) := workspace.act action
    let (last, replies) := next.actAll rest
    (last, reply :: replies)

end Workspace

end Flowprint
