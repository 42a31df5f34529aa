import Flowprint.Address
import Flowprint.Instruction

/-! The blocks of a function are listed by ascending address, at most one block to an address. -/

namespace Flowprint

/-- A finite map from addresses to blocks, kept in ascending order of address. -/
structure Blocks where
  /-- Each block under the address at which it starts. -/
  entries : List (Address × Block)
  /-- Addresses ascend strictly along the list. -/
  ascending : entries.Pairwise (fun earlier later => earlier.1 < later.1)

namespace Blocks

instance : DecidableEq Blocks := fun first second =>
  if same : first.entries = second.entries then
    isTrue (by cases first; cases second; cases same; rfl)
  else isFalse fun equal => same (congrArg entries equal)

/-- No block at any address. -/
def empty : Blocks := ⟨[], List.Pairwise.nil⟩

/-- Two maps with the same entries are the same map. -/
@[ext] theorem ext {first second : Blocks} (same : first.entries = second.entries) :
    first = second := by
  -- The other field is a proof.
  cases first; cases second; cases same; rfl

/-- Puts a block in the place of its address, instead of any block that was there. -/
def insertEntry (address : Address) (block : Block) :
    List (Address × Block) → List (Address × Block)
  | [] => [(address, block)]
  | entry :: rest =>
    if address < entry.1 then (address, block) :: entry :: rest
    else if address = entry.1 then (address, block) :: rest
    else entry :: insertEntry address block rest

/-- Every entry after an insertion is the new one or an old one. -/
theorem mem_insertEntry {address : Address} {block : Block} {entry : Address × Block}
    {entries : List (Address × Block)} (member : entry ∈ insertEntry address block entries) :
    entry = (address, block) ∨ entry ∈ entries := by
  -- Each branch keeps a part of the old list.
  induction entries with
  | nil => simpa [insertEntry] using member
  | cons head rest ih => grind [insertEntry]

/-- Insertion keeps the addresses ascending. -/
theorem ascending_insertEntry (address : Address) (block : Block) {entries : List (Address × Block)}
    (ascending : entries.Pairwise (fun earlier later => earlier.1 < later.1)) :
    (insertEntry address block entries).Pairwise (fun earlier later => earlier.1 < later.1) := by
  -- The new entry goes in front of the first address that is not below its own.
  induction entries with
  | nil => simp [insertEntry]
  | cons head rest ih =>
    obtain ⟨above, tail⟩ := List.pairwise_cons.mp ascending
    simp only [insertEntry]
    split
    · -- In front of the head, the new address is below all others.
      next below =>
      refine List.pairwise_cons.mpr ⟨?_, ascending⟩
      intro entry member
      rcases List.mem_cons.mp member with rfl | deeper
      · exact below
      · exact Int.lt_trans below (above entry deeper)
    · split
      · -- In the place of the head, the address is what it was.
        next same =>
        exact List.pairwise_cons.mpr ⟨fun entry member => same ▸ above entry member, tail⟩
      · -- Behind the head, which has the lower address.
        next notBelow different =>
        refine List.pairwise_cons.mpr ⟨?_, ih tail⟩
        intro entry member
        rcases mem_insertEntry member with rfl | old
        · exact (Int.lt_or_gt_of_ne different).resolve_left notBelow
        · exact above entry old

/-- Gives an address its block. -/
def set (blocks : Blocks) (address : Address) (block : Block) : Blocks where
  entries := insertEntry address block blocks.entries
  ascending := ascending_insertEntry address block blocks.ascending

/-- The block at an address, if there is one. -/
def get? (blocks : Blocks) (address : Address) : Option Block :=
  (blocks.entries.find? (·.1 = address)).map (·.2)

/-- An insertion is found at its own address, and every other address keeps what it had. -/
theorem find?_insertEntry (address other : Address) (block : Block)
    (entries : List (Address × Block)) :
    (insertEntry address block entries).find? (·.1 = other) =
      if address = other then some (address, block) else entries.find? (·.1 = other) := by
  -- An entry that is replaced had the address of the new one.
  induction entries with
  | nil => by_cases same : address = other <;> simp [insertEntry, same]
  | cons head rest ih =>
    simp only [insertEntry]
    split
    · by_cases same : address = other <;> simp [same]
    · split
      · -- The head had the address of the new entry, which takes its place.
        next here =>
        subst here
        by_cases same : head.1 = other <;> simp [same]
      · -- The new entry is somewhere behind the head.
        next different =>
        by_cases found : head.1 = other
        · simp [found, show ¬address = other from fun same => different (same.trans found.symm)]
        · simpa [found] using ih

/-- Setting a block changes what is at its own address only. -/
theorem get?_set (blocks : Blocks) (address other : Address) (block : Block) :
    (blocks.set address block).get? other =
      if address = other then some block else blocks.get? other := by
  -- Looking up reads the entry that an insertion left at the address.
  simp only [get?, set, find?_insertEntry]
  by_cases same : address = other <;> simp [same]

/-- An entry is listed exactly when looking up its address finds its block. -/
theorem mem_entries_iff {blocks : Blocks} {address : Address} {block : Block} :
    (address, block) ∈ blocks.entries ↔ blocks.get? address = some block := by
  obtain ⟨entries, ascending⟩ := blocks
  simp only [get?, Option.map_eq_some_iff]
  -- The search stops at the first entry with the address, and no other entry has it.
  induction entries with
  | nil => simp
  | cons head rest ih =>
    obtain ⟨above, tail⟩ := List.pairwise_cons.mp ascending
    by_cases here : head.1 = address
    · -- Addresses ascend, so no entry behind the head has its address.
      have later : (address, block) ∉ rest := by
        intro member
        have below : head.1 < address := above (address, block) member
        exact Int.lt_irrefl address (here ▸ below)
      simp only [List.mem_cons, later, or_false, List.find?_cons, here, decide_true,
        Option.some.injEq]
      constructor
      · intro same
        exact ⟨head, rfl, by rw [← same]⟩
      · rintro ⟨entry, rfl, rfl⟩
        rw [← here]
    · -- The head has another address, so both sides look behind it.
      have other : (address, block) ≠ head := by
        intro same
        exact here (by rw [← same])
      simpa only [List.mem_cons, other, false_or, List.find?_cons, here, decide_false] using
        ih tail

/-- Puts one more instruction at the end of a block; without a block there is nothing to extend. -/
def append (blocks : Blocks) (address : Address) (instruction : Instruction) : Blocks :=
  -- The address keeps its place, since its block is only replaced by a longer one.
  match blocks.get? address with
  | none => blocks
  | some block => blocks.set address (block ++ [instruction])

/-- Extending changes what is at its own address only, and only if there is a block. -/
theorem get?_append (blocks : Blocks) (address other : Address) (instruction : Instruction) :
    (blocks.append address instruction).get? other =
      if address = other then (blocks.get? other).map (· ++ [instruction])
      else blocks.get? other := by
  -- Extending is setting a longer block where there is one, and nothing elsewhere.
  by_cases same : address = other
  · -- At the address itself a longer block is set, if there is one.
    subst same
    cases found : blocks.get? address with
    | none => simp [append, found]
    | some block => simp [append, found, get?_set]
  · -- Any other address has the block that it had.
    cases found : blocks.get? address with
    | none => simp [append, found, same]
    | some block => simp [append, found, get?_set, same]

/-- All instructions, block after block by ascending address. -/
def instructions (blocks : Blocks) : List Instruction := blocks.entries.flatMap (·.2)

end Blocks

end Flowprint
