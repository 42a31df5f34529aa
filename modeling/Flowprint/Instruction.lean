import Flowprint.Fault

/-! An instruction is a mnemonic with its operands, in the order in which they were given. -/

namespace Flowprint

/-- Operand order is part of the meaning, so equality compares the lists as they stand. -/
structure Instruction where
  /-- The name of the operation. -/
  mnemonic : String
  /-- What the operation applies to. -/
  operands : List String
  deriving DecidableEq, Hashable, Repr

namespace Instruction

/-- The mnemonic, then one space and the operands with a comma and a space between them. -/
def render (instruction : Instruction) : String :=
  -- An empty operand still brings the space, so only the empty list leaves the mnemonic alone.
  match instruction.operands with
  | [] => instruction.mnemonic
  | operands => instruction.mnemonic ++ " " ++ ", ".intercalate operands

/-- An instruction is a value, and no field of it can be given another value. -/
def assign (_instruction : Instruction) (_field : String) : Except Fault Instruction :=
  .error .immutable

end Instruction

/-- The instructions of one straight run of code, in execution order. -/
abbrev Block := List Instruction

end Flowprint
