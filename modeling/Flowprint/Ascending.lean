/-! Strictly ascending lists stand for finite sets whose order is the order of their elements. -/

namespace Flowprint.Ascending

variable {α : Type} [LT α] [DecidableLT α] [DecidableEq α]

/-- Puts an element in its place, unless it is there already. -/
def insert (a : α) : List α → List α
  -- The first element that is not below the new one marks its place.
  | [] => [a]
  | b :: rest =>
    if a < b then a :: b :: rest
    else if a = b then b :: rest
    else b :: insert a rest

/-- The elements of a list in ascending order, each once. -/
def sort (items : List α) : List α :=
  -- Each element goes into what the elements behind it have made.
  items.foldr insert []

/-- Inserting adds the one element and loses none. -/
@[simp] theorem mem_insert {a b : α} {items : List α} :
    b ∈ insert a items ↔ b = a ∨ b ∈ items := by
  -- Either branch keeps the head, and an equal head is the element itself.
  induction items with
  | nil => simp [insert]
  | cons head rest ih =>
    simp only [insert]
    split
    · -- The element stands in front of the head.
      simp
    · split
      · -- An equal head is the element itself.
        next same => subst same; simp
      · -- The element goes in somewhere behind the head.
        simp only [List.mem_cons, ih]; grind

/-- Sorting keeps exactly the elements that were given. -/
@[simp] theorem mem_sort {b : α} {items : List α} : b ∈ sort items ↔ b ∈ items := by
  -- Each element is inserted into the sorted rest.
  induction items with
  | nil => simp [sort]
  | cons head rest ih =>
    simp only [sort, List.foldr_cons, mem_insert, List.mem_cons] at ih ⊢
    rw [ih]

section Order

variable [@Trans α α α (· < ·) (· < ·) (· < ·)] [@Std.Trichotomous α (· < ·)]

/-- Inserting keeps a list ascending. -/
theorem pairwise_insert (a : α) {items : List α} (ascending : items.Pairwise (· < ·)) :
    (insert a items).Pairwise (· < ·) := by
  -- The new element stands before the first one that is not below it.
  induction items with
  | nil => simp [insert]
  | cons head rest ih =>
    obtain ⟨above, tail⟩ := List.pairwise_cons.mp ascending
    simp only [insert]
    split
    · -- In front of the head, the element is below everything.
      next below =>
      refine List.pairwise_cons.mpr ⟨?_, ascending⟩
      intro b member
      rcases List.mem_cons.mp member with rfl | deeper
      · exact below
      · exact Trans.trans below (above b deeper)
    · next notBelow =>
      split
      · -- An equal head is kept, and nothing is inserted twice.
        exact ascending
      · next different =>
        have headBelow : head < a := by
          rcases (Std.Trichotomous.rel_or_eq_or_rel_swap : a < head ∨ a = head ∨ head < a)
            with below | same | below
          · exact absurd below notBelow
          · exact absurd same different
          · exact below
        -- Behind the head, which is below the element and below all that was there.
        refine List.pairwise_cons.mpr ⟨?_, ih tail⟩
        intro b member
        rcases mem_insert.mp member with rfl | old
        · exact headBelow
        · exact above b old

/-- Sorting lists the elements in ascending order, none of them twice. -/
theorem pairwise_sort (items : List α) : (sort items).Pairwise (· < ·) := by
  -- Each element goes into an ascending list.
  induction items with
  | nil => exact List.Pairwise.nil
  | cons head rest ih => exact pairwise_insert head ih

end Order

end Flowprint.Ascending
