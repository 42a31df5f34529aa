import Flowprint.Feature.Ngram
import Flowprint.Flowgraph.Edit

/-! The windows on a sequence, for every size, and when they determine what they were cut from. -/

namespace Flowprint

namespace Ngram

variable {α : Type} {sequence first second : List α} {size back start index : Nat}

/-- A tuple is cut from a sequence: so many elements, which stand there from a start on. -/
def IsCut (sequence : List α) (start length : Nat) (tuple : List α) : Prop :=
  -- Within the length there is an element at each place, so the cut lies inside the sequence.
  tuple.length = length ∧ ∀ offset < length, tuple[offset]? = sequence[start + offset]?

/-- There are as many windows as starts, and there are none if the size is too large. -/
@[simp] theorem length_windows (sequence : List α) (size : Int) :
    (windows sequence size).length = (sequence.length - size + 1).toNat := by
  -- The starts are the numbers below the bound.
  simp [windows]

/-- With a size that is not negative, a window starts wherever so many elements follow. -/
theorem length_windows_natCast (sequence : List α) (size : Nat) :
    (windows sequence size).length = sequence.length + 1 - size := by
  -- Between numbers that are not negative the bound is a difference.
  rw [length_windows]
  omega

/-- The window at a place is the one that starts there. -/
theorem getElem?_windows {size : Int} (inside : start < (sequence.length - size + 1).toNat) :
    (windows sequence size)[start]? = some (window sequence size start) := by
  -- The starts are the numbers in order, so each place is its own start.
  simp [windows, inside]

/-- With a size that is not negative, a window takes so many elements from its start on. -/
theorem window_natCast (sequence : List α) (size start : Nat) :
    window sequence size start = (sequence.drop start).take size := by
  -- The stop is no negative number, so it counts from the beginning.
  have stop : stopIndex sequence.length (start + size) = start + size := by
    rw [stopIndex, if_pos (by omega)]
    omega
  rw [window, stop, Nat.add_sub_cancel_left]

/-- A negative size lets the early stops wrap around, so that they count from the end. -/
theorem window_neg_of_lt (sequence : List α) (early : start < back) :
    window sequence (-back) start = (sequence.drop start).take (sequence.length - back) := by
  -- The stop lies as far before the end as the start lies before the first stop that is none.
  have stop : stopIndex sequence.length (start + -back) - start = sequence.length - back := by
    rw [stopIndex, if_neg (by omega)]
    omega
  rw [window, stop]

/-- A negative size leaves nothing from where the stops are no negative numbers any more. -/
theorem window_neg_of_le (sequence : List α) (late : back ≤ start) :
    window sequence (-back) start = [] := by
  -- The stop is not behind the start.
  have stop : stopIndex sequence.length (start + -back) - start = 0 := by
    rw [stopIndex, if_pos (by omega)]
    omega
  rw [window, stop, List.take_zero]

/-- Taking elements from a start on cuts them from the sequence, if so many are left there. -/
theorem isCut_take_drop (enough : size ≤ sequence.length - start) :
    IsCut sequence start size ((sequence.drop start).take size) := by
  refine ⟨?_, ?_⟩
  · -- As many are taken as were asked for, since there are enough of them.
    rw [List.length_take, List.length_drop]
    omega
  · intro offset within
    rw [List.getElem?_take_of_lt within, List.getElem?_drop]

/-- With a size that is not negative, each window is cut from the sequence at its place. -/
theorem exists_isCut_windows (inside : start < sequence.length + 1 - size) :
    ∃ tuple, (windows sequence size)[start]? = some tuple ∧ IsCut sequence start size tuple := by
  -- The window is a part of the sequence, since it is not counted from the end.
  refine ⟨window sequence size start, getElem?_windows (by omega), ?_⟩
  rw [window_natCast]
  exact isCut_take_drop (by omega)

/-- With a negative size the early windows have wrapped stops, and all others are empty. -/
theorem windows_neg (sequence : List α) (back : Nat) :
    windows sequence (-back) =
      (List.range back).map (fun start => (sequence.drop start).take (sequence.length - back)) ++
        List.replicate (sequence.length + 1) [] := by
  -- The starts are those before the first stop that does not wrap, and then those from it on.
  have count : (sequence.length - -(back : Int) + 1).toNat = back + (sequence.length + 1) := by
    omega
  rw [windows, count, List.range_add, List.map_append, List.map_map]
  congr 1
  · apply List.map_congr_left
    intro start early
    exact window_neg_of_lt sequence (List.mem_range.mp early)
  · -- From there on every window is empty, whatever its start is.
    refine List.eq_replicate_iff.mpr ⟨by simp, ?_⟩
    intro tuple member
    obtain ⟨start, -, rfl⟩ := List.mem_map.mp member
    exact window_neg_of_le sequence (Nat.le_add_right back start)

/-- Windows of no elements are empty, and one more of them starts at the very end. -/
theorem windows_zero (sequence : List α) :
    windows sequence 0 = List.replicate (sequence.length + 1) [] := by
  -- With the size zero no stop wraps around.
  simpa using windows_neg sequence 0

/-- An element stands in some window, as soon as there is any window at all. -/
theorem exists_window_of_lt (positive : 0 < size) (room : size ≤ sequence.length)
    (inside : index < sequence.length) :
    ∃ start offset, start < sequence.length + 1 - size ∧ offset < size ∧
      index = start + offset := by
  -- The last window reaches to the end, and any other window may start at the element itself.
  by_cases late : sequence.length - size < index
  · exact ⟨sequence.length - size, index - (sequence.length - size), by omega, by omega, by omega⟩
  · exact ⟨index, 0, by omega, by omega, by omega⟩

/-- Sequences that have a window at all are told apart by their windows. -/
theorem windows_inj (positive : 0 < size) (room : size ≤ first.length)
    (otherRoom : size ≤ second.length) :
    windows first size = windows second size ↔ first = second := by
  refine ⟨fun same => ?_, fun same => by rw [same]⟩
  -- As many windows of one size are on sequences of one length.
  have lengths : first.length = second.length := by
    have counts := congrArg List.length same
    rw [length_windows_natCast, length_windows_natCast] at counts
    omega
  apply List.ext_getElem?
  intro index
  by_cases inside : index < first.length
  · -- The element stands in a window, and the other sequence has the same one at the same place.
    obtain ⟨start, offset, early, within, rfl⟩ := exists_window_of_lt positive room inside
    obtain ⟨tuple, listed, -, cut⟩ := exists_isCut_windows early
    obtain ⟨other, otherListed, -, otherCut⟩ :=
      exists_isCut_windows (lengths ▸ early : start < second.length + 1 - size)
    rw [same, otherListed, Option.some.injEq] at listed
    rw [← cut offset within, ← otherCut offset within, listed]
  · rw [List.getElem?_eq_none (by omega), List.getElem?_eq_none (by omega)]

end Ngram

namespace Flowgraph

open Ngram

/-- Functions with the same code have the same n-grams, however it is divided into blocks. -/
theorem ngrams_congr {first second : Flowgraph}
    (same : first.blocks.instructions = second.blocks.instructions) (size : Int) :
    first.ngrams size = second.ngrams size := by
  -- The mnemonics of a function are those of its code.
  rw [ngrams, ngrams, mnemonics, mnemonics, same]

/-- With a size that is not negative, an n-gram starts wherever so many mnemonics follow. -/
theorem length_ngrams (function : Flowgraph) (size : Nat) :
    (function.ngrams size).length = function.mnemonics.length + 1 - size :=
  -- The n-grams of a function are the windows of its mnemonics.
  length_windows_natCast function.mnemonics size

/-- The mnemonics are those of the blocks, one block after the other. -/
theorem mnemonics_eq_flatMap (function : Flowgraph) :
    function.mnemonics = function.blocks.entries.flatMap fun entry => entry.2.map (·.mnemonic) := by
  -- The code is the blocks one after another.
  rw [mnemonics, Blocks.instructions, List.map_flatMap]

/--
The n-grams of a function, for every size.

A positive size cuts a tuple from every start from which so many mnemonics follow, and the size zero
cuts an empty one in front of each mnemonic and behind the last. A negative size counts the stops
from the end as long as they lie before the beginning, and leaves only empty tuples afterwards.
Functions that have a tuple of some positive size have the same ones only for the same mnemonics.
-/
theorem ngrams_cut (function : Flowgraph) :
    let code := fun function : Flowgraph =>
      function.blocks.entries.flatMap fun entry => entry.2.map (·.mnemonic)
    let sequence := code function
    (∀ size : Nat,
      (function.ngrams size).length = sequence.length + 1 - size ∧
      ∀ start < sequence.length + 1 - size, ∃ tuple,
        (function.ngrams size)[start]? = some tuple ∧ IsCut sequence start size tuple) ∧
    function.ngrams 0 = List.replicate (sequence.length + 1) [] ∧
    (∀ back : Nat, ∃ early,
      function.ngrams (-back) = early ++ List.replicate (sequence.length + 1) [] ∧
      early.length = back ∧
      ∀ start < back, ∃ tuple,
        early[start]? = some tuple ∧ IsCut sequence start (sequence.length - back) tuple) ∧
    ∀ (other : Flowgraph) (size : Nat), 0 < size →
      size ≤ sequence.length → size ≤ (code other).length →
      (function.ngrams size = other.ngrams size ↔ sequence = code other) := by
  intro code sequence
  -- What holds of the windows on any sequence holds of those on the mnemonics.
  have ngrams_eq (function : Flowgraph) (size : Int) :
      function.ngrams size = windows (code function) size := by
    rw [ngrams, mnemonics_eq_flatMap]
  simp only [ngrams_eq]
  refine ⟨?_, windows_zero sequence, ?_, ?_⟩
  · intro size
    exact ⟨length_windows_natCast sequence size, fun start inside => exists_isCut_windows inside⟩
  · intro back
    refine ⟨_, windows_neg sequence back, by simp, ?_⟩
    intro start early
    -- An early start leaves more elements than lie before the last `back` ones.
    exact ⟨(sequence.drop start).take (sequence.length - back), by simp [early],
      isCut_take_drop (by omega)⟩
  · intro other size positive room otherRoom
    exact windows_inj positive room otherRoom

/--
Four mnemonics in two blocks, one of them at no node, and the same ones in a single block.

A size of minus one wraps the first stop around, which leaves three mnemonics before it.
-/
theorem ngrams_cut_scattered :
    let function := build [.node 5, .block 9 [⟨"c", []⟩, ⟨"d", []⟩],
      .block 5 [⟨"a", []⟩, ⟨"b", ["x"]⟩]]
    let other := build [.block 7 [⟨"a", []⟩, ⟨"b", []⟩, ⟨"c", []⟩, ⟨"d", []⟩]]
    (function.ngrams 3).length = 2 ∧
    function.ngrams 0 = [[], [], [], [], []] ∧
    (∃ early, function.ngrams (-1) = early ++ [[], [], [], [], []] ∧
      early[0]? = some ["a", "b", "c"]) ∧
    0 < 4 ∧ 4 ≤ function.mnemonics.length ∧ 4 ≤ other.mnemonics.length ∧
    function.ngrams 4 = other.ngrams 4 := by
  intro function other
  obtain ⟨cut, empty, wrapped, told⟩ := ngrams_cut function
  -- The facts about the two functions are computed, and all else is read off the theorem.
  have same : function.mnemonics = other.mnemonics := by decide +kernel
  have room : 4 ≤ function.mnemonics.length := by decide +kernel
  have otherRoom : 4 ≤ other.mnemonics.length := by decide +kernel
  have equal := (told other 4 (by decide) room otherRoom).mpr same
  obtain ⟨early, whole, -, first⟩ := wrapped 1
  obtain ⟨tuple, listed, -⟩ := first 0 (by decide)
  -- What the first tuple holds is read off the stream as a whole.
  have head : early[0]? = (function.ngrams (-1))[0]? := by
    rw [show function.ngrams (-1) = early ++ _ from whole, List.getElem?_append_left]
    exact (List.getElem?_eq_some_iff.mp listed).1
  refine ⟨(cut 3).1.trans ?_, empty.trans ?_, ⟨early, whole.trans ?_, head.trans ?_⟩,
    by decide, room, otherRoom, equal⟩
  · decide +kernel
  · decide +kernel
  · rfl
  · decide +kernel

end Flowgraph

end Flowprint
