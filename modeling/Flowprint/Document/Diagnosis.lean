import Flowprint.Fault

/-! A document that cannot be taken over is diagnosed by the first thing that is wrong with it. -/

namespace Flowprint

/-- Why a document was not taken over completely. -/
inductive Diagnosis where
  /-- The text is no JSON value. -/
  | notJson
  /-- The file could not be read. -/
  | unreadable
  /-- The document is no object with nodes and edges. -/
  | missingFields
  /-- The nodes or the edges are no array. -/
  | notArrays
  /-- A node is no object with an address and instructions. -/
  | nodeMissingFields
  /-- A node has a bad address, which nests so deep, or its instructions are no array. -/
  | nodeInvalid (nesting : Nat)
  /-- A node has an instruction that is none, and it nests so deep. -/
  | malformedInstruction (address : Address) (nesting : Nat)
  /-- An edge is no object with a source and a destination. -/
  | edgeMissingFields
  /-- An end of an edge is no address; the deeper one of the ends nests so deep. -/
  | edgeInvalid (nesting : Nat)
  deriving DecidableEq, Repr

namespace Diagnosis

/-- The words for a diagnosis. -/
def message : Diagnosis → String
  | notJson => "syntax"
  | unreadable => "unreadable"
  | missingFields => "Flowgraph document is missing the nodes or edges field"
  | notArrays => "Flowgraph nodes and edges must be arrays"
  | nodeMissingFields => "Node is missing the address or instructions field"
  | nodeInvalid _ => "Node has an invalid address or instructions field"
  | malformedInstruction address _ =>
    "Node " ++ address.markedHex ++ " has a malformed instruction"
  | edgeMissingFields => "Edge is missing the source or destination field"
  | edgeInvalid _ => "Edge has an invalid address"

/-- How deep the values nest that a diagnosis quotes. -/
def nesting : Diagnosis → Nat
  | nodeInvalid nesting => nesting
  | malformedInstruction _ nesting => nesting
  | edgeInvalid nesting => nesting
  | _ => 0

/--
How deep a value may nest that is quoted in a diagnosis, for a program that asks by a single call.

Each level of a value takes one of 1000 calls that may be under way at once. Eight are taken by the
program, by its question and by the diagnosis, so one that asks from elsewhere has other room, and a
call with nothing above it has more. What is said of lost diagnoses is therefore said for any room.
-/
def maxNesting : Nat := 992

/--
The fault of a diagnosis that quotes a value nested more than `room` deep.

Nothing else in a value that was read keeps it from being quoted. An integer of more than 4300
digits would, and `Json.quotable_of_read?` says that no document holds one.
-/
def obstacle? (room : Nat) (diagnosis : Diagnosis) : Option Fault :=
  if diagnosis.nesting ≤ room then none else some .tooDeepToQuote

end Diagnosis

end Flowprint
