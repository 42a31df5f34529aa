import Flowprint.Feature.Collection
import Flowprint.Json.Value

/-! A summary counts the features of a function and names its most frequent mnemonic tuple. -/

namespace Flowprint

/-- The figures that are shown for a function. -/
structure Summary where
  /-- The name under which they are shown, or null without one; it may be any other value. -/
  name : Json
  /-- How many nodes there are. -/
  nodes : Nat
  /-- How many edges there are. -/
  edges : Nat
  /-- How many neighbourhoods were recorded. -/
  subgraphs : Nat
  /-- The node count of the largest of them. -/
  largestSubgraph : Nat
  /-- How many mnemonic tuples there are. -/
  tuples : Nat
  /-- The most frequent tuple and how often it occurs, or no text if there is no tuple. -/
  topTuple : String

namespace Summary

/-- The better of two counted elements; the first of two equals wins. -/
def better {α : Type} (first second : α × Nat) : α × Nat :=
  if first.2 < second.2 then second else first

/-- The element that occurs most often, with its count; the first that occurs wins a tie. -/
def mostFrequent? {α : Type} [DecidableEq α] (items : List α) : Option (α × Nat) :=
  -- The elements are compared in order of first occurrence.
  match (Distinct.ofList items).map fun item => (item, items.count item) with
  | [] => none
  | first :: rest => some (rest.foldl better first)

/-- The words for the most frequent tuple. -/
def describeTop (tuples : List (List String)) : String :=
  match mostFrequent? tuples with
  | none => ""
  | some (tuple, count) => " ".intercalate tuple ++ " (" ++ toString count ++ ")"

/-- The summary of collected features. -/
def ofFeatures (name : Json) (graph : Graph) (features : Features) : Summary where
  name := name
  nodes := graph.size
  edges := graph.edges.length
  subgraphs := features.subgraphs.length
  largestSubgraph := (features.subgraphs.map (·.nodes.length)).foldl max 0
  tuples := features.tuples.length
  topTuple := describeTop features.tuples

end Summary

end Flowprint
