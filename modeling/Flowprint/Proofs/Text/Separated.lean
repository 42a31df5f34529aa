import Flowprint.Rendering.Lines

/-!
What is put together from pieces with a separator between them can be taken apart again.

The separator is one mark, which stands in no piece, or a mark and a blank, which stand in no piece
side by side.
-/

namespace Flowprint

section Separator

variable {α : Type} {mark blank : α} {front back refront reback : List α}

/-- A list is cut at the first place of a mark in one way. -/
theorem append_cons_inj (one : mark ∉ front) (other : mark ∉ refront)
    (same : front ++ mark :: back = refront ++ mark :: reback) :
    front = refront ∧ back = reback := by
  -- What is in front of the mark is gone through element by element on both sides.
  induction front generalizing refront with
  | nil =>
    cases refront with
    | nil => exact ⟨rfl, (List.cons.inj same).2⟩
    | cons head tail =>
      obtain ⟨rfl, -⟩ := List.cons.inj same
      exact absurd List.mem_cons_self other
  | cons head tail ih =>
    cases refront with
    | nil =>
      obtain ⟨rfl, -⟩ := List.cons.inj same
      exact absurd List.mem_cons_self one
    | cons rehead retail =>
      obtain ⟨rfl, later⟩ := List.cons.inj same
      rw [List.mem_cons, not_or] at one other
      obtain ⟨rfl, behind⟩ := ih one.2 other.2 later
      exact ⟨rfl, behind⟩

/-- A mark at the end of a piece makes no separator with the separator behind it. -/
theorem append_separator_inj (different : mark ≠ blank) (one : ¬[mark, blank] <:+: front)
    (other : ¬[mark, blank] <:+: refront)
    (same : front ++ mark :: blank :: back = refront ++ mark :: blank :: reback) :
    front = refront ∧ back = reback := by
  -- A longer piece would go on with the separator, or with the mark and then the separator.
  have longer {short long more remore : List α} (free : ¬[mark, blank] <:+: short ++ long)
      (same : mark :: blank :: more = long ++ mark :: blank :: remore) : long = [] := by
    rcases long with _ | ⟨first, _ | ⟨second, rest⟩⟩
    · rfl
    · simp only [List.cons_append, List.nil_append, List.cons.injEq] at same
      exact absurd same.2.1.symm different
    · simp only [List.cons_append, List.cons.injEq] at same
      obtain ⟨rfl, rfl, -⟩ := same
      exact absurd ⟨short, rest, by simp⟩ free
  -- One of the two pieces is the front of the other, and what is left over is empty.
  rcases List.append_eq_append_iff.mp same with ⟨long, rfl, rest⟩ | ⟨long, rfl, rest⟩
  · obtain rfl := longer other rest
    simpa using rest
  · obtain rfl := longer one rest
    simpa [eq_comm] using rest

/-- Pieces without a separator inside are told apart in what they make with separators between. -/
theorem intercalate_inj (different : mark ≠ blank) {first refirst : List α}
    {rest rerest : List (List α)} (one : ∀ piece ∈ first :: rest, ¬[mark, blank] <:+: piece)
    (other : ∀ piece ∈ refirst :: rerest, ¬[mark, blank] <:+: piece)
    (same : [mark, blank].intercalate (first :: rest) =
      [mark, blank].intercalate (refirst :: rerest)) :
    first = refirst ∧ rest = rerest := by
  -- A piece that is the last one on one side only would hold the separator of the other side.
  have last {piece first second : List α} {more : List (List α)}
      (free : ¬[mark, blank] <:+: piece)
      (same : piece = [mark, blank].intercalate (first :: second :: more)) : False := by
    rw [List.intercalate_cons_cons] at same
    exact free ⟨first, [mark, blank].intercalate (second :: more), same.symm⟩
  -- One piece with its separator is taken off on both sides.
  induction rest generalizing first refirst rerest with
  | nil =>
    -- Without a separator on the left there is none on the right.
    rw [List.intercalate_singleton] at same
    cases rerest with
    | nil =>
      rw [List.intercalate_singleton] at same
      exact ⟨same, rfl⟩
    | cons second more => exact (last (one first List.mem_cons_self) same).elim
  | cons second more ih =>
    cases rerest with
    | nil =>
      rw [List.intercalate_singleton] at same
      exact (last (other refirst List.mem_cons_self) same.symm).elim
    -- The first pieces are the same, and so is what follows the separator.
    | cons resecond remore =>
      simp only [List.intercalate_cons_cons, List.append_assoc, List.cons_append,
        List.nil_append] at same
      rw [List.forall_mem_cons] at one other
      obtain ⟨rfl, later⟩ := append_separator_inj different one.1 other.1 same
      obtain ⟨rfl, rfl⟩ := ih one.2 other.2 later
      exact ⟨rfl, rfl⟩

/-- What stands between the pieces is the separator and nothing else. -/
theorem mem_of_mem_intercalate {a : α} {separator : List α} {pieces : List (List α)}
    (member : a ∈ separator.intercalate pieces) : a ∈ separator ∨ ∃ piece ∈ pieces, a ∈ piece := by
  -- The first piece has a separator behind it, unless it is the last one as well.
  induction pieces with
  | nil => cases member
  | cons first rest ih =>
    cases rest with
    | nil =>
      rw [List.intercalate_singleton] at member
      exact Or.inr ⟨first, List.mem_cons_self, member⟩
    | cons second more =>
      rw [List.intercalate_cons_cons, List.mem_append, List.mem_append] at member
      rcases member with (here | between) | later
      · exact Or.inr ⟨first, List.mem_cons_self, here⟩
      · exact Or.inl between
      · rcases ih later with between | ⟨piece, among, inside⟩
        · exact Or.inl between
        · exact Or.inr ⟨piece, List.mem_cons_of_mem _ among, inside⟩

end Separator

/-- A text of lines has a line break behind each line. -/
theorem toList_unlines (lines : List String) :
    (unlines lines).toList = lines.flatMap fun line => line.toList ++ ['\n'] := by
  -- Each line comes with its own line break.
  simp [unlines, String.toList_join, List.flatMap_map]

/-- Lines without a line break inside are told apart in the text that they make. -/
theorem unlines_inj {lines relines : List String} (one : ∀ line ∈ lines, '\n' ∉ line.toList)
    (other : ∀ line ∈ relines, '\n' ∉ line.toList) (same : unlines lines = unlines relines) :
    lines = relines := by
  have texts := congrArg String.toList same
  rw [toList_unlines, toList_unlines] at texts
  clear same
  -- The first line break ends the first line on both sides.
  induction lines generalizing relines with
  | nil =>
    cases relines with
    | nil => rfl
    -- A text that is empty has no line in it.
    | cons line rest => simp at texts
  | cons line rest ih =>
    cases relines with
    | nil => simp at texts
    | cons reline rerest =>
      rw [List.forall_mem_cons] at one other
      simp only [List.flatMap_cons, List.append_assoc, List.cons_append, List.nil_append] at texts
      obtain ⟨here, later⟩ := append_cons_inj one.1 other.1 texts
      rw [String.toList_inj.mp here, ih one.2 other.2 later]

end Flowprint
