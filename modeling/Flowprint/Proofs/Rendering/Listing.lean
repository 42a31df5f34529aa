import Flowprint.Flowgraph.Edit
import Flowprint.Proofs.Text.Hexadecimal
import Flowprint.Proofs.Text.Separated
import Flowprint.Rendering.Listing
import Mathlib.Data.List.Infix

/-!
A listing shows the whole code of a function: no other code has the same listing.

This holds as long as no text of an instruction looks like a part of the listing itself.
-/

namespace Flowprint

/-- No text of an instruction holds what separates it from the next one in a listing. -/
structure Instruction.Plain (instruction : Instruction) : Prop where
  /-- The first blank in a line ends the mnemonic. -/
  spaceless : ' ' ∉ instruction.mnemonic.toList
  /-- A mnemonic stands in one line. -/
  mnemonic : '\n' ∉ instruction.mnemonic.toList
  /-- A comma with a blank behind it ends an operand. -/
  separate : ∀ operand ∈ instruction.operands, ¬[',', ' '] <:+: operand.toList
  /-- An operand stands in one line. -/
  operands : ∀ operand ∈ instruction.operands, '\n' ∉ operand.toList

instance (instruction : Instruction) : Decidable instruction.Plain :=
  decidable_of_iff
    ((' ' ∉ instruction.mnemonic.toList ∧ '\n' ∉ instruction.mnemonic.toList) ∧
      ∀ operand ∈ instruction.operands, ¬[',', ' '] <:+: operand.toList ∧ '\n' ∉ operand.toList)
    ⟨fun plain => ⟨plain.1.1, plain.1.2, fun operand member => (plain.2 operand member).1,
        fun operand member => (plain.2 operand member).2⟩,
      fun plain => ⟨⟨plain.spaceless, plain.mnemonic⟩, fun operand member =>
        ⟨plain.separate operand member, plain.operands operand member⟩⟩⟩

namespace Instruction

/-- Without operands there is the mnemonic alone. -/
theorem toList_render_nil (mnemonic : String) :
    (render ⟨mnemonic, []⟩).toList = mnemonic.toList := by
  rfl

/-- With operands there is a blank behind the mnemonic, even if the only operand is empty. -/
theorem toList_render_cons (mnemonic first : String) (rest : List String) :
    (render ⟨mnemonic, first :: rest⟩).toList = mnemonic.toList ++
      ' ' :: [',', ' '].intercalate (first.toList :: rest.map String.toList) := by
  -- The separator stands between the operands, and the blank in front of all of them.
  simp [render, String.toList_intercalate]

variable {instruction other : Instruction}

/-- No operand holds a separator. -/
theorem Plain.pieces (plain : instruction.Plain) :
    ∀ piece ∈ instruction.operands.map String.toList, ¬[',', ' '] <:+: piece := by
  -- What is true of the operands is true of their characters.
  intro piece member
  obtain ⟨operand, among, rfl⟩ := List.mem_map.mp member
  exact plain.separate operand among

/-- A plain instruction is known by what is shown of it. -/
theorem Plain.render_inj (one : instruction.Plain) (two : other.Plain)
    (same : instruction.render = other.render) : instruction = other := by
  obtain ⟨mnemonic, operands⟩ := instruction
  obtain ⟨remnemonic, reoperands⟩ := other
  -- Both are compared as lists of characters.
  have texts := congrArg String.toList same
  have spaceless : ' ' ∉ mnemonic.toList := one.spaceless
  have alsoSpaceless : ' ' ∉ remnemonic.toList := two.spaceless
  cases operands with
  | nil =>
    cases reoperands with
    | nil => rw [show mnemonic = remnemonic from same]
    | cons refirst rerest =>
      -- A blank on the right has none to match on the left.
      rw [toList_render_nil, toList_render_cons] at texts
      exact absurd (texts ▸ by simp) spaceless
  | cons first rest =>
    cases reoperands with
    -- And the other way round, a blank on the left has none on the right.
    | nil =>
      rw [toList_render_nil, toList_render_cons] at texts
      exact absurd (texts ▸ by simp) alsoSpaceless
    | cons refirst rerest =>
      -- The first blank ends the mnemonic on both sides, and operands hold no separator.
      rw [toList_render_cons, toList_render_cons] at texts
      obtain ⟨names, behind⟩ := append_cons_inj spaceless alsoSpaceless texts
      obtain ⟨firsts, rests⟩ := intercalate_inj (by decide) one.pieces two.pieces behind
      have others := (List.map_inj_right fun _ _ => String.toList_inj.mp).mp rests
      rw [String.toList_inj.mp names, String.toList_inj.mp firsts, others]

/-- A plain instruction is shown in one line. -/
theorem Plain.notMem_render (plain : instruction.Plain) : '\n' ∉ instruction.render.toList := by
  obtain ⟨mnemonic, operands⟩ := instruction
  cases operands with
  | nil => exact plain.mnemonic
  | cons first rest =>
    -- Neither the blank nor what stands between two operands brings a line break.
    rw [toList_render_cons, List.mem_append, List.mem_cons]
    rintro (inMnemonic | blank | behind)
    · exact plain.mnemonic inMnemonic
    · revert blank
      decide
    · rcases mem_of_mem_intercalate behind with between | ⟨piece, among, inside⟩
      · revert between
        decide
      · rw [← List.map_cons] at among
        obtain ⟨operand, present, rfl⟩ := List.mem_map.mp among
        exact plain.operands operand present inside

end Instruction

/-- All instructions of a block are plain. -/
def Block.Plain (block : Block) : Prop := ∀ instruction ∈ block, instruction.Plain

instance (block : Block) : Decidable (Block.Plain block) :=
  inferInstanceAs (Decidable (∀ instruction ∈ block, instruction.Plain))

/-- All instructions of all blocks are plain. -/
def Blocks.Plain (blocks : Blocks) : Prop := ∀ entry ∈ blocks.entries, Block.Plain entry.2

instance (blocks : Blocks) : Decidable blocks.Plain :=
  inferInstanceAs (Decidable (∀ entry ∈ blocks.entries, Block.Plain entry.2))

namespace Listing

/-- The characters of the line that opens a block. -/
theorem toList_blockLine (address : Address) (block : Block) :
    (blockLine address block).toList = "\t\tBlock at ".toList ++
      (address.hex.toList ++ ' ' :: '(' :: (Nat.toDigits 10 block.length ++ [')'])) := by
  -- The number of instructions is written with its decimal digits.
  simp [blockLine, Nat.toString_eq_repr, Nat.repr_eq_ofList_toDigits]

/-- The line that opens a block tells its address and how many lines follow. -/
theorem blockLine_inj {address readdress : Address} {block reblock : Block}
    (same : blockLine address block = blockLine readdress reblock) :
    address = readdress ∧ block.length = reblock.length := by
  have texts := congrArg String.toList same
  rw [toList_blockLine, toList_blockLine] at texts
  -- The first blank behind the words ends the address.
  obtain ⟨addresses, behind⟩ := append_cons_inj (Address.notMem_hex (by decide) (by decide))
    (Address.notMem_hex (by decide) (by decide)) (List.append_cancel_left texts)
  have counts := List.append_cancel_right (List.cons.inj behind).2
  exact ⟨Address.hex_inj (String.toList_inj.mp addresses),
    toDigits_inj (by decide) (by decide) counts⟩

/-- The line that opens a block is one line. -/
theorem notMem_blockLine (address : Address) (block : Block) :
    '\n' ∉ (blockLine address block).toList := by
  -- Both numbers in the line are made of digits and letters.
  have digits : '\n' ∉ Nat.toDigits 10 block.length := by
    intro member
    have alphanumeric := isAlphanum_of_mem_toDigits (by decide) (by decide) member
    revert alphanumeric
    decide
  have hex : '\n' ∉ address.hex.toList := Address.notMem_hex (by decide) (by decide)
  rw [toList_blockLine]
  simp [digits, hex]

/-- Plain blocks of the same lines are the same block. -/
theorem block_inj {block reblock : Block} (one : Block.Plain block) (other : Block.Plain reblock)
    (same : block.map instructionLine = reblock.map instructionLine) : block = reblock := by
  -- The indent is the same for all lines, and behind it an instruction is known by its line.
  induction block generalizing reblock with
  | nil => exact (List.map_eq_nil_iff.mp same.symm).symm
  | cons instruction rest ih =>
    cases reblock with
    | nil => cases same
    | cons reinstruction rerest =>
      -- The first lines agree, and so do the others.
      obtain ⟨line, lines⟩ := List.cons.inj same
      rw [Block.Plain, List.forall_mem_cons] at one other
      have texts := congrArg String.toList line
      rw [instructionLine, instructionLine, String.toList_append, String.toList_append] at texts
      have shown := String.toList_inj.mp (List.append_cancel_left texts)
      rw [one.1.render_inj other.1 shown, ih one.2 other.2 lines]

/-- Plain blocks are told apart in the lines that they make. -/
theorem entries_inj {entries reentries : List (Address × Block)}
    (one : ∀ entry ∈ entries, Block.Plain entry.2)
    (other : ∀ entry ∈ reentries, Block.Plain entry.2)
    (same : entries.flatMap blockLines = reentries.flatMap blockLines) : entries = reentries := by
  -- A block takes its opening line and one line for each instruction.
  induction entries generalizing reentries with
  | nil =>
    cases reentries with
    | nil => rfl
    | cons reentry rerest => cases same
  | cons entry rest ih =>
    cases reentries with
    | nil => cases same
    | cons reentry rerest =>
      rw [List.forall_mem_cons] at one other
      obtain ⟨opening, lines⟩ := List.cons.inj same
      obtain ⟨address, length⟩ := blockLine_inj opening
      -- Both blocks have as many lines, so the rest begins at the same place.
      obtain ⟨here, later⟩ := List.append_inj lines (by simpa using length)
      have block := block_inj one.1 other.1 here
      rw [Prod.ext address block, ih one.2 other.2 later]

/-- All lines of plain blocks are single lines. -/
theorem notMem_lines {entries : List (Address × Block)}
    (plain : ∀ entry ∈ entries, Block.Plain entry.2) :
    ∀ line ∈ entries.flatMap blockLines, '\n' ∉ line.toList := by
  -- A line opens a block, or it shows an instruction of a block.
  intro line member
  obtain ⟨entry, among, inside⟩ := List.mem_flatMap.mp member
  rcases List.mem_cons.mp inside with rfl | inBlock
  · exact notMem_blockLine entry.1 entry.2
  · obtain ⟨instruction, present, rfl⟩ := List.mem_map.mp inBlock
    have shown := (plain entry among instruction present).notMem_render
    rw [instructionLine, String.toList_append, List.mem_append]
    -- The indent is made of tabs and a blank, and the instruction is shown in one line.
    rintro (indent | inside)
    · revert indent
      decide
    · exact shown inside

/-- The lines above the blocks are single lines as well. -/
theorem notMem_listing (address : Address) {entries : List (Address × Block)}
    (plain : ∀ entry ∈ entries, Block.Plain entry.2) :
    ∀ line ∈ "" :: ("[!] Function at " ++ address.hex) :: entries.flatMap blockLines,
      '\n' ∉ line.toList := by
  -- Above the blocks stand an empty line and one with the lowest address.
  have hex : '\n' ∉ address.hex.toList := Address.notMem_hex (by decide) (by decide)
  rw [List.forall_mem_cons, List.forall_mem_cons]
  exact ⟨by simp, by simp [hex], notMem_lines plain⟩

end Listing

namespace Flowgraph

open Listing

/--
A listing fails exactly for a function without blocks, and otherwise it shows all of its code.

Functions with plain code and the same listing have the same blocks at the same addresses.
-/
theorem listing_faithful (function other : Flowgraph) :
    (∀ fault, function.listing = .error fault ↔
      fault = .nothingToList ∧ function.blocks.entries = []) ∧
    (function.blocks.Plain → other.blocks.Plain → ∀ text, function.listing = .ok text →
      other.listing = .ok text → function.blocks.entries = other.blocks.entries) := by
  rw [listing, listing]
  refine ⟨?_, ?_⟩
  · -- A listing fails at the very first check, which asks for blocks.
    intro fault
    cases function.blocks.entries with
    | nil => simp [eq_comm]
    | cons entry rest => simp
  · intro one two text shown reshown
    rw [Blocks.Plain] at one two
    -- Both listings are there, so both functions have blocks.
    cases listed : function.blocks.entries with
    | nil => simp [listed] at shown
    | cons entry rest =>
      cases relisted : other.blocks.entries with
      | nil => simp [relisted] at reshown
      | cons reentry rerest =>
        rw [listed] at one shown
        rw [relisted] at two reshown
        have lines := unlines_inj (notMem_listing entry.1 one) (notMem_listing reentry.1 two)
          (Except.ok.inj (shown.trans reshown.symm))
        -- Two lines stand in front of the blocks, and both are passed over.
        exact entries_inj one two (List.cons.inj (List.cons.inj lines).2).2

/-- Empty texts, and operands that begin or end like a separator, given in another order. -/
theorem listing_faithful_edges :
    let block : Block := [⟨"", []⟩, ⟨"", [""]⟩, ⟨"mov", ["a,", " b", ""]⟩]
    let function := build [.block 5 block, .block (-3) []]
    let other := build [.block (-3) block, .node 5, .block 5 block, .block (-3) []]
    let text := "\n[!] Function at -3\n\t\tBlock at -3 (0)\n\t\tBlock at 5 (3)\n" ++
      "\t\t\t \n\t\t\t  \n\t\t\t mov a,,  b, \n"
    function.blocks.Plain ∧ other.blocks.Plain ∧
    function.listing = .ok text ∧ other.listing = .ok text ∧
    function.blocks.entries = other.blocks.entries ∧ empty.listing = .error .nothingToList := by
  intro block function other text
  -- All four conditions can be computed.
  have one : function.blocks.Plain := by decide +kernel
  have two : other.blocks.Plain := by decide +kernel
  have shown : function.listing = .ok text := by decide +kernel
  have reshown : other.listing = .ok text := by decide +kernel
  refine ⟨one, two, shown, reshown, ?_, ?_⟩
  · -- The first part is the general statement for the two functions, and the second for none.
    exact (listing_faithful function other).2 one two text shown reshown
  · exact ((listing_faithful empty other).1 .nothingToList).mpr ⟨rfl, rfl⟩

end Flowgraph

end Flowprint
