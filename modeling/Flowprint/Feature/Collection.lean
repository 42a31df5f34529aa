import Flowprint.Feature.Generator
import Flowprint.Json.Value

/-! Features are collected by draining a generator, and subgraphs are labelled with distances. -/

namespace Flowprint

/-- A neighbourhood as it is recorded. -/
structure Neighbourhood where
  /-- The node in the middle. -/
  center : Address
  /-- The hops with which it is labelled. -/
  distance : Nat
  /-- Its nodes in order of visit. -/
  nodes : List Address
  /-- Its edges in the order of the graph. -/
  edges : List Edge
  deriving DecidableEq

/-- All features of a function. -/
structure Features where
  /-- The neighbourhoods in order of request. -/
  subgraphs : List Neighbourhood
  /-- The mnemonic tuples in order of the code. -/
  tuples : List (List String)
  deriving DecidableEq

namespace Features

/--
The distance for the position of a subgraph, of which each round has `nodeCount`.

The round is the quotient toward negative infinity, and the rounds -1 and -2 are the last and the
last but one.
-/
def distanceAt (position : Nat) (nodeCount : Int) : Except Fault Nat :=
  -- A negative count makes every round but the first one negative.
  if nodeCount = 0 then .error .zeroNodeCount
  else
    let round := (position : Int).fdiv nodeCount
    let round := if round < 0 then round + subgraphDistances.length else round
    if round < 0 then .error .noDistance
    else
      match subgraphDistances[round.toNat]? with
      | some distance => .ok distance
      | none => .error .noDistance

/-- A neighbourhood under its label. -/
def entry (graph : Graph) (request : Address × Nat) (distance : Nat) : Neighbourhood :=
  let subgraph := Generator.serve graph request
  ⟨request.1, distance, subgraph.nodes, subgraph.edges⟩

/--
The labelled neighbourhoods of some requests from a position on, and the requests that are left.

A request whose neighbourhood cannot be labelled is lost.
-/
def label (graph : Graph) (nodeCount : Int) :
    Nat → List (Address × Nat) → Except Fault (List Neighbourhood) × List (Address × Nat)
  | _, [] => (.ok [], [])
  | position, request :: rest =>
    match distanceAt position nodeCount with
    -- The request was pulled before its distance was asked for.
    | .error fault => (.error fault, rest)
    | .ok distance =>
      match label graph nodeCount (position + 1) rest with
      | (.ok entries, left) => (.ok (entry graph request distance :: entries), left)
      | failed => failed

/-- Drains a generator; if a label fails, the mnemonic tuples stay where they are. -/
def collect (generator : Generator) (graph : Graph) (nodeCount : Int) :
    Except Fault Features × Generator :=
  match label graph nodeCount 0 generator.requests with
  | (.ok entries, left) => (.ok ⟨entries, generator.tuples⟩, ⟨left, []⟩)
  | (.error fault, left) => (.error fault, { generator with requests := left })

/-- The features of a function, from a generator made for it. -/
def ofFunction (function : Flowgraph) : Except Fault Features :=
  (collect (Generator.new function) function.toGraph function.size).1

/-- A neighbourhood as an object. -/
def neighbourhoodJson (neighbourhood : Neighbourhood) : Json :=
  .object [("center", .integer neighbourhood.center),
    ("distance", .integer neighbourhood.distance),
    ("nodes", .array (neighbourhood.nodes.map .integer)),
    ("edges", .array (neighbourhood.edges.map fun edge =>
      .array [.integer edge.1, .integer edge.2]))]

/-- Features as an object. -/
def toJson (features : Features) : Json :=
  .object [("subgraphs", .array (features.subgraphs.map neighbourhoodJson)),
    ("mnemonic_tuples", .array (features.tuples.map fun tuple => .array (tuple.map .string)))]

end Features

end Flowprint
