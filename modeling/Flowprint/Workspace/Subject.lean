import Flowprint.Flowgraph.Edit
import Flowprint.Rendering.Dot

/-! What is worked on is a bare graph or a function, and a bare graph can do less. -/

namespace Flowprint

/-- A graph with or without code. -/
inductive Subject where
  /-- A graph that has no code, such as a neighbourhood. -/
  | bare (graph : Graph)
  /-- A function with its code. -/
  | coded (function : Flowgraph)
  deriving DecidableEq

namespace Subject

/-- The graph of a subject, whatever code it has. -/
def graph : Subject → Graph
  | bare graph => graph
  | coded function => function.toGraph

/-- The function that a subject is, which is asked for something that takes code. -/
def function (subject : Subject) (request : CodeRequest) : Except Fault Flowgraph :=
  match subject with
  | bare _ => .error (.noCode request)
  | coded function => .ok function

/-- The subject after one edit; a bare graph takes nodes and edges only. -/
def edit (subject : Subject) (edit : Edit) : Except Fault Subject :=
  match subject, edit with
  | coded function, edit => .ok (.coded (function.edit edit))
  | bare graph, .node address => .ok (.bare (graph.addNode address))
  | bare graph, .edge edge => .ok (.bare (graph.addEdge edge))
  | bare _, .block _ _ => .error (.noCode .setBlock)
  | bare _, .instruction _ _ => .error (.noCode .block)

/-- The drawing of a subject, which shows the code if there is any. -/
def toDot : Subject → String
  | bare graph => graph.toDot
  | coded function => function.toDot

end Subject

end Flowprint
