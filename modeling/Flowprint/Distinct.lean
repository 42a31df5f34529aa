/-! Lists without repetition stand for finite sets whose order is the order of insertion. -/

namespace Flowprint.Distinct

variable {α : Type} [DecidableEq α]

/-- An element that is present keeps its place, and a new one comes last. -/
def insert (items : List α) (a : α) : List α :=
  -- A second insertion therefore changes nothing.
  if items.contains a then items else items ++ [a]

/-- The elements of a list, each at its first occurrence. -/
def ofList (items : List α) : List α := items.foldl insert []

/-- Inserting adds the one element and loses none. -/
@[simp] theorem mem_insert {items : List α} {a b : α} : b ∈ insert items a ↔ b ∈ items ∨ b = a := by
  -- A present element is a member of the old list already.
  rw [insert, List.contains_eq_mem]
  by_cases present : a ∈ items
  · simp only [present, decide_true, if_true]
    constructor
    · exact Or.inl
    · rintro (member | rfl) <;> assumption
  · simp [present]

/-- Inserting repeats nothing. -/
theorem nodup_insert {items : List α} (distinct : items.Nodup) (a : α) :
    (insert items a).Nodup := by
  -- Only an absent element is put at the end.
  rw [insert, List.contains_eq_mem]
  by_cases present : a ∈ items
  · simpa only [present, decide_true, if_true] using distinct
  · simp only [present, decide_false, Bool.false_eq_true, if_false]
    refine List.nodup_append.mpr ⟨distinct, by simp, ?_⟩
    intro b member c single same
    rw [List.mem_singleton] at single
    exact present (single ▸ same ▸ member)

/-- Inserting one element after another repeats nothing. -/
theorem nodup_foldl_insert (more : List α) {items : List α} (distinct : items.Nodup) :
    (more.foldl insert items).Nodup := by
  -- The list stays free of repetition through every step.
  induction more generalizing items with
  | nil => exact distinct
  | cons a rest ih => exact ih (nodup_insert distinct a)

/-- Inserting one element after another loses none. -/
theorem subset_foldl_insert (more items : List α) : items ⊆ more.foldl insert items := by
  -- An element that is present stays present through every step.
  induction more generalizing items with
  | nil => exact List.Subset.refl _
  | cons a rest ih => exact fun _ present => ih (insert items a) (mem_insert.mpr (Or.inl present))

/-- Reading off first occurrences repeats nothing. -/
theorem nodup_ofList (items : List α) : (ofList items).Nodup :=
  -- The empty list has nothing to repeat.
  nodup_foldl_insert items List.nodup_nil

/-- A new element is put at the end. -/
theorem insert_of_notMem {items : List α} {a : α} (absent : a ∉ items) :
    insert items a = items ++ [a] := by
  -- No element of the list equals the new one, so it goes to the end.
  simp [insert, absent]

/-- Inserting elements that are all new puts them at the end one after the other. -/
theorem foldl_insert_of_nodup (more : List α) {items : List α} (distinct : (items ++ more).Nodup) :
    more.foldl insert items = items ++ more := by
  -- The first of them is neither present nor repeated later.
  induction more generalizing items with
  | nil => simp
  | cons a rest ih =>
    have absent : a ∉ items := fun present =>
      (List.nodup_append.mp distinct).2.2 a present a List.mem_cons_self rfl
    have shifted : items ++ a :: rest = items ++ [a] ++ rest := by simp
    rw [List.foldl_cons, insert_of_notMem absent, shifted, ih (shifted ▸ distinct)]

/-- A list that repeats nothing consists of its own first occurrences. -/
theorem ofList_eq_self {items : List α} (distinct : items.Nodup) : ofList items = items :=
  -- From nothing on, no element is ever there already.
  foldl_insert_of_nodup items distinct

end Flowprint.Distinct
