import Flowprint.Fault
import Flowprint.Graph.Sweep
import Flowprint.Feature.Ngram

/-!
A generator hands out the features of a function one after the other.

What it will be asked for is fixed when it is made, but a subgraph is cut out of the graph as the
graph is at that moment.
-/

namespace Flowprint

/-- The hops of the two rounds of neighbourhoods, in order. -/
def subgraphDistances : List Nat := [2, 3]

/-- No feature has more nodes than this. -/
def maxSubgraphNodes : Int := 30

/-- What a generator has still to hand out. -/
structure Generator where
  /-- The neighbourhoods to come, each with its center and its hops. -/
  requests : List (Address × Nat)
  /-- The mnemonic tuples to come. -/
  tuples : List (List String)
  deriving DecidableEq

namespace Generator

/-- The requests for some nodes: every node in the first round, and then every node in the next. -/
def requestsFor (nodes : List Address) : List (Address × Nat) :=
  subgraphDistances.flatMap fun distance => nodes.map (·, distance)

/-- There are two rounds of requests, and each of them goes through all nodes. -/
theorem requestsFor_eq (nodes : List Address) :
    requestsFor nodes = nodes.map (·, 2) ++ nodes.map (·, 3) := by
  -- The two distances are served one after the other.
  simp [requestsFor, subgraphDistances]

/-- There are two requests for every node. -/
@[simp] theorem length_requestsFor (nodes : List Address) :
    (requestsFor nodes).length = 2 * nodes.length := by
  -- Every node is asked for once with each distance.
  rw [requestsFor_eq, List.length_append, List.length_map, List.length_map]
  exact (Nat.two_mul _).symm

/-- The generator of a function as it is now. -/
def new (function : Flowgraph) : Generator :=
  ⟨requestsFor function.nodes, function.ngrams mnemonicTupleSize⟩

/-- There is a subgraph to come. -/
def hasSubgraphs (generator : Generator) : Bool := !generator.requests.isEmpty

/-- There is a mnemonic tuple to come. -/
def hasTuples (generator : Generator) : Bool := !generator.tuples.isEmpty

/-- The neighbourhood that a request asks for, in a graph as it is now. -/
def serve (graph : Graph) (request : Address × Nat) : Graph :=
  graph.neighbourhood request.1 request.2 maxSubgraphNodes

/-- Hands out the next subgraph with its center. -/
def nextSubgraph (generator : Generator) (graph : Graph) :
    Except Fault ((Graph × Address) × Generator) :=
  match generator.requests with
  | [] => .error .noMoreSubgraphs
  | request :: rest => .ok ((serve graph request, request.1), { generator with requests := rest })

/-- Hands out the next mnemonic tuple. -/
def nextTuple (generator : Generator) : Except Fault (List String × Generator) :=
  match generator.tuples with
  | [] => .error .noMoreTuples
  | tuple :: rest => .ok (tuple, { generator with tuples := rest })

/-- Hands out some subgraphs with their centers, or all that are left if there are fewer. -/
def takeSubgraphs (generator : Generator) (graph : Graph) (count : Nat) :
    List (Graph × Address) × Generator :=
  ((generator.requests.take count).map fun request => (serve graph request, request.1),
    { generator with requests := generator.requests.drop count })

/-- Hands out some mnemonic tuples, or all that are left if there are fewer. -/
def takeTuples (generator : Generator) (count : Nat) : List (List String) × Generator :=
  (generator.tuples.take count, { generator with tuples := generator.tuples.drop count })

end Generator

end Flowprint
