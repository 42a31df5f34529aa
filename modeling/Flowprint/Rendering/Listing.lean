import Flowprint.Fault
import Flowprint.Flowgraph.Basic
import Flowprint.Rendering.Lines

/-! A listing shows the code of a function, block after block by ascending address. -/

namespace Flowprint

namespace Listing

/-- The line that opens a block with its address and its length. -/
def blockLine (address : Address) (block : Block) : String :=
  "\t\tBlock at " ++ address.hex ++ " (" ++ toString block.length ++ ")"

/-- The line of one instruction. -/
def instructionLine (instruction : Instruction) : String := "\t\t\t " ++ instruction.render

/-- The lines of a block. -/
def blockLines (entry : Address × Block) : List String :=
  blockLine entry.1 entry.2 :: entry.2.map instructionLine

end Listing

/-- The listing of a function, named after its lowest block; without any block there is none. -/
def Flowgraph.listing (function : Flowgraph) : Except Fault String :=
  -- A function with nothing but empty blocks has a listing.
  match function.blocks.entries with
  | [] => .error .nothingToList
  | first :: rest =>
    .ok (unlines ("" :: ("[!] Function at " ++ first.1.hex) ::
      (first :: rest).flatMap Listing.blockLines))

/-- A function has a listing exactly if it has a block. -/
theorem Flowgraph.exists_listing_iff {function : Flowgraph} :
    (∃ text, function.listing = .ok text) ↔ function.blocks.entries ≠ [] := by
  -- The first entry is what the listing is named after.
  rw [listing]
  cases function.blocks.entries <;> simp

end Flowprint
