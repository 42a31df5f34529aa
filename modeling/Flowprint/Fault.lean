import Flowprint.Address
import Flowprint.Flowgraph.Request
import Flowprint.Json.Value

/-! What can go wrong in a call, by cause, and the words in which each cause is reported. -/

namespace Flowprint

/-- Why a call has no result. -/
inductive Fault where
  /-- A field of an instruction was to be assigned. -/
  | immutable
  /-- The stream of subgraphs is drained. -/
  | noMoreSubgraphs
  /-- The stream of mnemonic tuples is drained. -/
  | noMoreTuples
  /-- A position was to be divided by a node count of zero. -/
  | zeroNodeCount
  /-- A position belongs to no distance. -/
  | noDistance
  /-- An integer does not fit into 64 bits. -/
  | wideInteger
  /-- A listing was asked of a function without blocks. -/
  | nothingToList
  /-- No block starts at the address. -/
  | noBlock (address : Address)
  /-- Containers stand too deep inside each other to be written. -/
  | tooDeep
  /-- Containers stand too deep inside each other to be quoted in a diagnosis. -/
  | tooDeepToQuote
  /-- A value of another kind stands where a text is to be shown. -/
  | notText (kind : Json.Kind)
  /-- A value of another kind stands where a summary is to be shown. -/
  | notSummary (kind : Json.Kind)
  /-- A graph without code was asked for something that takes code. -/
  | noCode (request : CodeRequest)
  deriving DecidableEq, Repr

namespace Fault

/-- The words for a cause. -/
def message : Fault → String
  | immutable => "Instruction is immutable"
  | noMoreSubgraphs => "No more subgraphs to generate"
  | noMoreTuples => "No more mnemonic tuples to generate"
  | zeroNodeCount => "integer division or modulo by zero"
  | noDistance => "tuple index out of range"
  | wideInteger => "Integer exceeds 64-bit range"
  | nothingToList => "Cannot disassemble a flowgraph without instructions"
  | noBlock address => toString address
  | tooDeep => "Recursion limit reached"
  | tooDeepToQuote => "maximum recursion depth exceeded while getting the repr of an object"
  | notText kind => "expected string or bytes-like object, got '" ++ kind.name ++ "'"
  | notSummary kind => "'" ++ kind.name ++ "' object has no attribute 'get'"
  | noCode request => "'Flowgraph' object has no attribute '" ++ request.name ++ "'"

end Fault

end Flowprint
