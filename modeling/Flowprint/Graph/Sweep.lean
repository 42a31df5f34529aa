import Flowprint.Graph.Basic

/-! A breadth-first sweep keeps nodes in the order of their distance from where it began. -/

namespace Flowprint

/-- The state of a sweep between two steps. -/
structure Sweep where
  /-- The nodes kept so far, in order of visit. -/
  kept : List Address
  /-- The nodes still to visit, each with its hops from the center. -/
  queue : List (Address × Nat)
  /-- Every node that was ever put into the queue. -/
  seen : List Address
  deriving DecidableEq

namespace Sweep

/-- A sweep starts with its center at no hops. -/
def start (center : Address) : Sweep := ⟨[], [(center, 0)], [center]⟩

/-- The listed addresses that have not been seen, each at its first occurrence. -/
def unseen (seen : List Address) : List Address → List Address
  -- A listed address counts as seen from there on.
  | [] => []
  | address :: rest =>
    if seen.contains address then unseen seen rest else address :: unseen (address :: seen) rest

/-- What is left of a list is what was listed and had not been seen. -/
@[simp] theorem mem_unseen {seen items : List Address} {address : Address} :
    address ∈ unseen seen items ↔ address ∈ items ∧ address ∉ seen := by
  -- An address that is kept counts as seen behind its place.
  induction items generalizing seen with
  | nil => simp [unseen]
  | cons head rest ih => grind [unseen]

/-- What is left of a list repeats nothing. -/
theorem nodup_unseen (seen items : List Address) : (unseen seen items).Nodup := by
  -- Behind an address that is kept, nothing that counts as seen is kept.
  induction items generalizing seen with
  | nil => exact List.nodup_nil
  | cons head rest ih =>
    rw [unseen]
    split
    · exact ih seen
    · exact List.nodup_cons.mpr ⟨by simp, ih _⟩

/-- Only the membership of an address among the seen ones counts. -/
theorem unseen_congr {seen other : List Address}
    (same : ∀ address, address ∈ seen ↔ address ∈ other) (items : List Address) :
    unseen seen items = unseen other items := by
  -- Both lists grow by the same addresses.
  induction items generalizing seen other with
  | nil => rfl
  | cons head rest ih =>
    have grown : ∀ address, address ∈ head :: seen ↔ address ∈ head :: other := by
      intro address
      simp only [List.mem_cons, same]
    simp only [unseen, List.contains_eq_mem, same, ih same, ih grown]

/-- A list in two parts is looked through part by part. -/
theorem unseen_append (seen first second : List Address) :
    unseen seen (first ++ second) =
      unseen seen first ++ unseen (unseen seen first ++ seen) second := by
  -- What the first part has left counts as seen for the second.
  induction first generalizing seen with
  | nil => rfl
  | cons head rest ih =>
    rw [List.cons_append, unseen, unseen]
    split
    · -- The head was seen before, and it counts for neither part.
      exact ih seen
    · -- The head is new, and from here on it counts as seen.
      rw [ih, List.cons_append]
      congr 2
      apply unseen_congr
      intro address
      simp only [List.mem_append, List.mem_cons, or_left_comm, or_assoc]

/-- Inserting one address after another adds those that were not there. -/
theorem foldl_insert_eq (items more : List Address) :
    more.foldl Distinct.insert items = items ++ unseen items more := by
  -- What was inserted counts as seen.
  induction more generalizing items with
  | nil => simp [unseen]
  | cons head rest ih =>
    rw [List.foldl_cons, ih, Distinct.insert, unseen]
    split
    · -- A head that is there already is not inserted again.
      rfl
    · -- A new head is the last of what was inserted so far.
      rw [List.append_assoc, List.singleton_append]
      congr 2
      apply unseen_congr
      intro address
      simp [or_comm]

/-- What is added to a list of seen addresses is listed without repetition. -/
theorem unseen_eq_ofList (seen items : List Address) :
    unseen seen items = Distinct.ofList (items.filter (· ∉ seen)) := by
  -- The addresses that were seen before play no part in the rest.
  rw [Distinct.ofList, foldl_insert_eq, List.nil_append]
  suffices general : ∀ kept, unseen (kept ++ seen) items =
      unseen kept (items.filter (· ∉ seen)) from general []
  induction items with
  | nil => intro kept; rfl
  | cons head rest ih =>
    intro kept
    by_cases member : head ∈ seen
    · -- What was seen before is left out on both sides.
      simp [unseen, member, ih]
    · by_cases present : head ∈ kept
      · -- A repetition is left out because the address was kept before.
        simp [unseen, member, present, ih]
      · -- A new address is kept, and it joins those that were kept.
        have deeper := ih (head :: kept)
        rw [List.cons_append] at deeper
        simp [unseen, member, present, deeper]

/-- What a visit adds to the queue: nothing at the rim, and else the neighbours not yet seen. -/
def discoveries (graph : Graph) (distance : Int) (seen : List Address) (address : Address)
    (hops : Nat) : List Address :=
  -- With a negative distance the center itself is at the rim.
  if distance ≤ hops then [] else unseen seen (graph.neighbours address)

/-- One step keeps the node at the front of the queue and puts its discoveries at the back. -/
def step (graph : Graph) (distance : Int) (sweep : Sweep) : Sweep :=
  match sweep.queue with
  | [] => sweep
  | (address, hops) :: rest =>
    -- What is found is marked at once, so that no node enters the queue twice.
    let found := discoveries graph distance sweep.seen address hops
    { kept := sweep.kept ++ [address]
      queue := rest ++ found.map (·, hops + 1)
      seen := found ++ sweep.seen }

/-- Steps until the queue is empty or there is no room for another node. -/
def run (graph : Graph) (distance : Int) : Nat → Sweep → Sweep
  -- Every step keeps one node, so the room falls by one.
  | 0, sweep => sweep
  | room + 1, sweep =>
    match sweep.queue with
    | [] => sweep
    | _ :: _ => run graph distance room (sweep.step graph distance)

end Sweep

namespace Graph

/-- The nodes of a neighbourhood in order of visit; a center that is no node has none. -/
def surroundings (graph : Graph) (center : Address) (distance maxSize : Int) : List Address :=
  -- A bound that is not positive leaves no room at all.
  if center ∈ graph.nodes then
    (Sweep.run graph distance maxSize.toNat (Sweep.start center)).kept
  else []

/--
The neighbourhood of a node within some hops, edges counting in either direction.

The nodes closest to the center are the ones kept when there is not room for all of them.
-/
def neighbourhood (graph : Graph) (center : Address) (distance maxSize : Int) : Graph :=
  graph.induced (graph.surroundings center distance maxSize)

end Graph

end Flowprint
