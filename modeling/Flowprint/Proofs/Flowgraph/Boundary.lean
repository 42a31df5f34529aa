import Flowprint.Proofs.Feature.Ngram
import Flowprint.Proofs.Flowgraph.Blocks
import Flowprint.Proofs.Flowgraph.History
import Mathlib.Data.List.Permutation

/-! The n-grams of a function do not show where one block ends and the next one begins. -/

namespace Flowprint

namespace Blocks

variable {blocks : Blocks} {start next : Address} {front back : Block}

/-- A block may end anywhere, if its second part starts before any other block does. -/
theorem instructions_split (found : blocks.get? start = some (front ++ back)) (ahead : start < next)
    (free : ∀ address, start < address → address ≤ next → blocks.get? address = none) :
    ((blocks.set start front).set next back).instructions = blocks.instructions := by
  -- The list of entries is followed through both insertions, cut in two at the block.
  obtain ⟨before, behind, whole, below, above⟩ := exists_cut found
  -- Whatever stands behind the block stands behind its second part as well.
  have beyond : ∀ entry ∈ behind, next < entry.1 := by
    intro entry member
    have listed : entry ∈ blocks.entries := by simp [whole, member]
    by_contra early
    -- Otherwise it would start where no block is.
    have nothing := free entry.1 (above entry member) (not_lt.mp early)
    rw [mem_entries_iff.mp listed] at nothing
    cases nothing
  -- The first part takes the place of the block.
  have shortened : (blocks.set start front).entries = (before ++ [(start, front)]) ++ behind := by
    rw [entries_set, whole, insertEntry_append below, insertEntry_self]
    simp
  -- The second part comes right behind it.
  have closer : ∀ entry ∈ before ++ [(start, front)], entry.1 < next := by
    intro entry member
    rcases List.mem_append.mp member with earlier | same
    · exact (below entry earlier).trans ahead
    · rwa [List.mem_singleton.mp same]
  have separated : ((blocks.set start front).set next back).entries =
      (before ++ [(start, front)]) ++ (next, back) :: behind := by
    rw [entries_set, shortened, insertEntry_append closer, insertEntry_of_above beyond]
  rw [instructions, instructions, separated, whole]
  simp

/-- An empty block adds nothing to the code, if it takes the place of none. -/
theorem instructions_set_nil (absent : blocks.get? start = none) :
    (blocks.set start []).instructions = blocks.instructions := by
  apply instructions_congr
  intro address
  rw [get?_set]
  -- Without a block there is no code at the address either.
  split
  · next here => rw [← here, absent]; rfl
  · rfl

/-- What an edit makes of the blocks; nodes and edges leave them alone. -/
def edit (blocks : Blocks) : Edit → Blocks
  | .node _ | .edge _ => blocks
  | .block address block => blocks.set address block
  | .instruction address instruction => blocks.append address instruction

end Blocks

/-- The edit gives an address its block, or it extends one. -/
def Edit.changesCode : Edit → Bool
  | .node _ | .edge _ => false
  | .block _ _ | .instruction _ _ => true

namespace Flowgraph

open Edit

/-- The blocks are those that the edits of the code have made, whatever was edited in between. -/
theorem blocks_replay (function : Flowgraph) (edits : List Edit) :
    (function.replay edits).blocks =
      (edits.filter changesCode).foldl Blocks.edit function.blocks := by
  -- An edit that does not pass has left the blocks as they were.
  induction edits generalizing function with
  | nil => rfl
  | cons first rest ih =>
    have stepped : (function.replay (first :: rest)).blocks = _ := ih (function.edit first)
    rw [stepped]
    cases first <;> rfl

/--
No n-gram of any size shows where a block ends.

A block may be cut in two if its second part starts behind it and before any other block, in
whichever order the two parts are given to their addresses. An empty block may be given to an
address that has none. Nodes and edges may be added in between.
-/
theorem ngrams_replay_split (function : Flowgraph) (edits : List Edit) :
    (∀ start next front back, function.blocks.get? start = some (front ++ back) → start < next →
      (∀ address, start < address → address ≤ next → function.blocks.get? address = none) →
      (edits.filter changesCode).Perm [.block start front, .block next back] →
      ∀ size, (function.replay edits).ngrams size = function.ngrams size) ∧
    (∀ start, function.blocks.get? start = none →
      edits.filter changesCode = [.block start []] →
      ∀ size, (function.replay edits).ngrams size = function.ngrams size) := by
  refine ⟨?_, ?_⟩
  · -- A cut moves instructions from one block into the next, so the code stays the same.
    intro start next front back found ahead free parts
    apply ngrams_congr
    rw [← Blocks.instructions_split found ahead free, blocks_replay]
    -- The parts start at different addresses, so neither of them replaces the other.
    rcases List.perm_pair.mp parts with inOrder | swapped
    · rw [inOrder]
      rfl
    · rw [swapped, Blocks.set_comm _ (ne_of_lt ahead)]
      rfl
  · -- A block without instructions adds none to the code.
    intro start absent single
    apply ngrams_congr
    rw [← Blocks.instructions_set_nil absent, blocks_replay, single]
    rfl

/-- A block of three instructions that is cut behind its first one, last part first. -/
theorem ngrams_replay_split_reversed :
    let function := build [.block 9 [⟨"d", []⟩], .node 2,
      .block 2 [⟨"a", []⟩, ⟨"b", []⟩, ⟨"c", []⟩]]
    let edits : List Edit := [.node 5, .block 5 [⟨"b", []⟩, ⟨"c", []⟩], .edge (2, 5),
      .block 2 [⟨"a", []⟩]]
    function.blocks.get? 2 = some ([⟨"a", []⟩] ++ [⟨"b", []⟩, ⟨"c", []⟩]) ∧ (2 : Address) < 5 ∧
    (∀ address, 2 < address → address ≤ 5 → function.blocks.get? address = none) ∧
    (edits.filter Edit.changesCode).Perm
      [.block 2 [⟨"a", []⟩], .block 5 [⟨"b", []⟩, ⟨"c", []⟩]] ∧
    (function.replay edits).blocks.entries ≠ function.blocks.entries ∧
    (function.replay edits).ngrams 3 = [["a", "b", "c"], ["b", "c", "d"]] := by
  -- The block is found, nothing starts between the parts, and the edits that count are the two.
  intro function edits
  have found : function.blocks.get? 2 = some ([⟨"a", []⟩] ++ [⟨"b", []⟩, ⟨"c", []⟩]) := by
    decide +kernel
  have free : ∀ address, 2 < address → address ≤ 5 → function.blocks.get? address = none := by
    intro address above below
    -- Blocks were given to 9 and to 2 only.
    apply get?_build_eq_none
    simp only [List.filterMap_cons, start?, List.filterMap_nil, List.mem_cons, List.not_mem_nil,
      or_false, not_or]
    exact ⟨(below.trans_lt (by decide)).ne, above.ne'⟩
  have parts : (edits.filter Edit.changesCode).Perm
      [.block 2 [⟨"a", []⟩], .block 5 [⟨"b", []⟩, ⟨"c", []⟩]] := by
    decide +kernel
  -- For this size the statement is that of the function before, which can be computed.
  have same := (ngrams_replay_split function edits).1 2 5 _ _ found (by decide) free parts 3
  refine ⟨found, by decide, free, parts, by decide +kernel, same.trans ?_⟩
  decide +kernel

end Flowgraph

end Flowprint
