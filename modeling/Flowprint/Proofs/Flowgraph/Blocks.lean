import Flowprint.Flowgraph.Blocks
import Mathlib.Data.List.Sort

/-! Blocks are decided by what stands at each address, and so is the code that they make up. -/

namespace Flowprint.Blocks

variable {blocks first second : Blocks} {address : Address} {block : Block}
  {before behind entries : List (Address × Block)}

/-- Ascending lists with the same entries are the same list. -/
theorem entries_eq_of_mem_iff {one other : List (Address × Block)}
    (ascending : one.Pairwise fun earlier later => earlier.1 < later.1)
    (otherAscending : other.Pairwise fun earlier later => earlier.1 < later.1)
    (same : ∀ entry, entry ∈ one ↔ entry ∈ other) : one = other := by
  -- An order that is strict lists the same entries in one way only.
  have irreflexive : Std.Irrefl fun earlier later : Address × Block => earlier.1 < later.1 :=
    ⟨fun entry => Int.lt_irrefl entry.1⟩
  have antisymmetric : Std.Antisymm fun earlier later : Address × Block => earlier.1 < later.1 :=
    ⟨fun _ _ below above => absurd below (Int.lt_asymm above)⟩
  exact List.Pairwise.eq_of_mem_iff ascending otherAscending same

/-- Two maps with the same block at every address are the same map. -/
theorem ext_get? (same : ∀ address, first.get? address = second.get? address) : first = second := by
  -- A map keeps its entries in ascending order, so it matters only which they are.
  refine Blocks.ext (entries_eq_of_mem_iff first.ascending second.ascending ?_)
  intro entry
  rw [mem_entries_iff, mem_entries_iff, same]

/-- Blocks may be given to different addresses in either order. -/
theorem set_comm (blocks : Blocks) {first second : Address} (different : first ≠ second)
    (one other : Block) :
    (blocks.set first one).set second other = (blocks.set second other).set first one := by
  refine Blocks.ext_get? ?_
  intro address
  simp only [get?_set]
  -- What is found at the first address does not depend on the second block, since they differ.
  by_cases here : first = address
  · simp [here, Ne.symm (here ▸ different)]
  · simp [here]

/-- A block that is given to an address is inserted among the entries. -/
@[simp] theorem entries_set (blocks : Blocks) (address : Address) (block : Block) :
    (blocks.set address block).entries = insertEntry address block blocks.entries := rfl

/-- An entry is inserted behind all entries that start before it. -/
theorem insertEntry_append (below : ∀ entry ∈ before, entry.1 < address) :
    insertEntry address block (before ++ entries) =
      before ++ insertEntry address block entries := by
  -- Each of them is passed over, since the new address is neither below its own nor the same.
  induction before with
  | nil => rfl
  | cons head rest ih =>
    have passed : head.1 < address := below head List.mem_cons_self
    rw [List.cons_append, insertEntry, if_neg passed.not_gt, if_neg passed.ne',
      ih fun entry member => below entry (List.mem_cons_of_mem head member), List.cons_append]

/-- An entry is inserted in front of entries that all start behind it. -/
theorem insertEntry_of_above (above : ∀ entry ∈ behind, address < entry.1) :
    insertEntry address block behind = (address, block) :: behind := by
  -- The first of them is as far as the search for a place goes.
  cases behind with
  | nil => rfl
  | cons head rest => rw [insertEntry, if_pos (above head List.mem_cons_self)]

/-- An entry takes the place of the one with its address. -/
theorem insertEntry_self (old : Block) :
    insertEntry address block ((address, old) :: behind) = (address, block) :: behind := by
  -- The address is neither below the one in front nor above it.
  rw [insertEntry, if_neg (lt_irrefl address), if_pos rfl]

/-- A block that is found stands between the entries before it and those behind it. -/
theorem exists_cut (found : blocks.get? address = some block) :
    ∃ before behind, blocks.entries = before ++ (address, block) :: behind ∧
      (∀ entry ∈ before, entry.1 < address) ∧ ∀ entry ∈ behind, address < entry.1 := by
  obtain ⟨before, behind, whole⟩ := List.append_of_mem (mem_entries_iff.mpr found)
  refine ⟨before, behind, whole, ?_⟩
  -- Addresses ascend along the whole list, so they do in front of the block and behind it.
  have ascending := blocks.ascending
  rw [whole, List.pairwise_append, List.pairwise_cons] at ascending
  obtain ⟨-, ⟨above, -⟩, below⟩ := ascending
  exact ⟨fun entry member => below entry member _ List.mem_cons_self, above⟩

/-- The entries with instructions are the blocks that are found and not empty. -/
theorem mem_filter_entries {entry : Address × Block} :
    entry ∈ blocks.entries.filter (·.2 ≠ []) ↔
      entry.2 ≠ [] ∧ (blocks.get? entry.1).getD [] = entry.2 := by
  rw [List.mem_filter, mem_entries_iff, decide_eq_true_eq, and_comm, and_congr_right_iff]
  intro full
  -- No block reads like an empty one, and this one is not empty.
  cases blocks.get? entry.1 with
  | none => simpa using Ne.symm full
  | some block => simp

/-- Entries without instructions add nothing to the code. -/
theorem instructions_eq_filter (blocks : Blocks) :
    blocks.instructions = (blocks.entries.filter (·.2 ≠ [])).flatMap (·.2) := by
  rw [instructions]
  induction blocks.entries with
  | nil => rfl
  | cons head rest ih =>
    -- An entry that does not pass is empty, so nothing of it is missed.
    by_cases empty : head.2 = []
    · simp [empty, ih]
    · simp [empty, ih]

/-- Blocks make up the same code if an address has the same code, whether or not it has a block. -/
theorem instructions_congr
    (same : ∀ address, (first.get? address).getD [] = (second.get? address).getD []) :
    first.instructions = second.instructions := by
  rw [instructions_eq_filter, instructions_eq_filter]
  -- Blocks with instructions stand at the same addresses, and in ascending order either way.
  congr 1
  refine entries_eq_of_mem_iff (first.ascending.filter _) (second.ascending.filter _) ?_
  intro entry
  rw [mem_filter_entries, mem_filter_entries, same]

end Flowprint.Blocks
