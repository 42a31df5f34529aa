import Flowprint.Flowgraph.Edit
import Flowprint.Graph.Adjacency
import Flowprint.Proofs.Graph.Levels

/-! What a function holds is decided by the edits that built it, and by their order. -/

namespace Flowprint

/-- One more element is selected behind the others, if at all. -/
theorem filterMap_concat {α β : Type} (select : α → Option β) (items : List α) (last : α) :
    (items ++ [last]).filterMap select = items.filterMap select ++ (select last).toList := by
  -- The last element is selected or dropped, behind what the others give.
  rw [List.filterMap_append, List.filterMap_cons]
  cases select last <;> rfl

section Repetition

variable {α : Type} [DecidableEq α] [BEq α] [LawfulBEq α]

omit [BEq α] [LawfulBEq α] in
/-- One more element is inserted behind the first occurrences of the others. -/
theorem Distinct.ofList_concat (items : List α) (last : α) :
    Distinct.ofList (items ++ [last]) = Distinct.insert (Distinct.ofList items) last := by
  -- Reading off goes from left to right, so the last element comes last.
  simp [Distinct.ofList, List.foldl_append]

/-- Reading off first occurrences drops every later repetition. -/
theorem Distinct.ofList_eq_eraseDups (items : List α) :
    Distinct.ofList items = items.eraseDups := by
  -- The last element is put at the end unless it occurred before.
  induction items using List.reverseRecOn with
  | nil => rfl
  | append_singleton items last ih =>
    rw [Distinct.ofList_concat, ih, List.eraseDups_append]
    by_cases present : last ∈ items
    · simp [Distinct.insert, List.removeAll, present]
    · simp [Distinct.insert, List.removeAll, present, List.eraseDups_cons]

omit [BEq α] [LawfulBEq α] in
/-- Reading off first occurrences loses no element. -/
theorem Distinct.mem_ofList {items : List α} {a : α} : a ∈ Distinct.ofList items ↔ a ∈ items := by
  -- The library removes repetitions from the right and keeps the same elements.
  rw [Distinct.ofList_eq_eraseDups, List.mem_eraseDups]

/-- Inserting one element after another puts the new ones at the end, each where it comes first. -/
theorem Distinct.foldl_insert_eq {items : List α} (distinct : items.Nodup) (more : List α) :
    more.foldl Distinct.insert items = items ++ (more.filter (· ∉ items)).eraseDups := by
  -- All of it is read off at once, and what stands there is distinct already.
  have read : more.foldl Distinct.insert items = Distinct.ofList (items ++ more) := by
    rw [Distinct.ofList, List.foldl_append]
    exact congrArg (more.foldl Distinct.insert) (Distinct.ofList_eq_self distinct).symm
  have old : items.eraseDups = items := by
    rw [← Distinct.ofList_eq_eraseDups, Distinct.ofList_eq_self distinct]
  rw [read, Distinct.ofList_eq_eraseDups, List.eraseDups_append, old]
  congr 2
  -- What is left of the new elements are those that are not old.
  apply List.filter_congr
  simp

/-- What was listed first stays in front when more is listed. -/
theorem prefix_eraseDups_append {α : Type} [BEq α] [LawfulBEq α] (items more : List α) :
    items.eraseDups <+: (items ++ more).eraseDups := by
  -- Old elements are kept, and new ones come behind them.
  rw [List.eraseDups_append]
  exact List.prefix_append _ _

end Repetition

namespace Adjacency

variable {adjacency : Adjacency} {graph : Graph}

/-- The children that are registered for an address are those that a search finds. -/
theorem Registers.sort_children (registers : Registers adjacency graph) (address : Address) :
    Ascending.sort (adjacency.children address) = graph.children address := by
  -- Sorting depends on the elements only, and these are the ends of the same edges.
  apply Ascending.sort_congr
  intro child
  rw [registers.children, ← Graph.mem_children, Graph.children, Ascending.mem_sort]

/-- The parents that are registered for an address are those that a search finds. -/
theorem Registers.sort_parents (registers : Registers adjacency graph) (address : Address) :
    Ascending.sort (adjacency.parents address) = graph.parents address := by
  -- Sorting depends on the elements only, and these are the starts of the same edges.
  apply Ascending.sort_congr
  intro parent
  rw [registers.parents, ← Graph.mem_parents, Graph.parents, Ascending.mem_sort]

end Adjacency

namespace Edit

/-- The node that an edit adds. -/
def node? : Edit → Option Address
  | .node address => some address
  | _ => none

/-- The edge that an edit adds. -/
def edge? : Edit → Option Edge
  | .edge added => some added
  | _ => none

/-- The address to which an edit gives a block. -/
def start? : Edit → Option Address
  | .block address _ => some address
  | _ => none

/-- The instruction by which an edit extends the block at an address. -/
def extension? (address : Address) : Edit → Option Instruction
  | .instruction start added => if start = address then some added else none
  | _ => none

/--
What a series of edits leaves at an address.

It is the last block given to the address, with the instructions that have extended it since.
-/
def Leaves (edits : List Edit) (address : Address) (block : Block) : Prop :=
  -- No later edit gives the address another block, so the one that is extended is this one.
  ∃ before given after, edits = before ++ .block address given :: after ∧
    (∀ other, .block address other ∉ after) ∧
    block = given ++ after.filterMap (extension? address)

/-- One more edit gives the address a new block, or it may extend the one that was left there. -/
theorem leaves_concat {edits : List Edit} {edit : Edit} {address : Address} {block : Block} :
    Leaves (edits ++ [edit]) address block ↔ edit = .block address block ∨
      (∀ given, edit ≠ .block address given) ∧
        ∃ old, Leaves edits address old ∧ block = old ++ (edit.extension? address).toList := by
  constructor
  · intro leaves
    obtain ⟨before, given, after, whole, last, rfl⟩ := leaves
    -- The block was given by the last edit, or the last edit stands among those after it.
    rcases List.eq_nil_or_concat after with rfl | ⟨earlier, final, rfl⟩
    · obtain ⟨-, same⟩ := List.append_inj' whole rfl
      rw [List.singleton_inj] at same
      exact Or.inl (by simpa using same)
    · have shifted : edits ++ [edit] = (before ++ .block address given :: earlier) ++ [final] := by
        rw [whole]
        simp
      obtain ⟨front, same⟩ := List.append_inj' shifted rfl
      rw [List.singleton_inj] at same
      subst same
      refine Or.inr ⟨?_, given ++ earlier.filterMap (extension? address), ?_, ?_⟩
      · -- No later edit gave the address another block, so neither did the last one.
        intro other same
        exact last other (by simp [same])
      · refine ⟨before, given, earlier, front, ?_, rfl⟩
        intro other member
        exact last other (by simp [member])
      · rw [List.concat_eq_append, filterMap_concat, List.append_assoc]
  · intro cases
    -- A block that is given now is left as it is; otherwise the earlier one is extended, if at all.
    rcases cases with rfl | ⟨different, old, leaves, rfl⟩
    · exact ⟨edits, block, [], rfl, by simp, by simp⟩
    · obtain ⟨before, given, after, rfl, last, rfl⟩ := leaves
      refine ⟨before, given, after ++ [edit], by simp, ?_, ?_⟩
      · intro other member
        rcases List.mem_append.mp member with earlier | final
        · exact last other earlier
        · exact different other (List.mem_singleton.mp final).symm
      · rw [filterMap_concat, List.append_assoc]

/-- Something is left at an address exactly when some edit gives it a block. -/
theorem exists_leaves_iff {edits : List Edit} {address : Address} :
    (∃ block, Leaves edits address block) ↔ address ∈ edits.filterMap start? := by
  -- An edit that gives no block leaves something only where something was left before it.
  induction edits using List.reverseRecOn with
  | nil => simp [Leaves]
  | append_singleton edits edit ih =>
    -- A block is given by an earlier edit or by the last one.
    have listed : address ∈ (edits ++ [edit]).filterMap start? ↔
        address ∈ edits.filterMap start? ∨ ∃ given, edit = .block address given := by
      rw [filterMap_concat, List.mem_append]
      apply or_congr_right
      cases edit <;> simp [start?, eq_comm]
    rw [listed, ← ih]
    simp only [leaves_concat]
    constructor
    · intro left
      obtain ⟨block, here | ⟨-, old, leaves, -⟩⟩ := left
      · exact Or.inr ⟨block, here⟩
      · exact Or.inl ⟨old, leaves⟩
    · intro given
      -- The last edit gives the block, or it can only add to the one that was left.
      by_cases here : ∃ block, edit = .block address block
      · obtain ⟨block, same⟩ := here
        exact ⟨block, Or.inl same⟩
      · obtain ⟨old, leaves⟩ := given.resolve_right here
        exact ⟨_, Or.inr ⟨fun block same => here ⟨block, same⟩, old, leaves, rfl⟩⟩

end Edit

namespace Flowgraph

open Adjacency Edit

/-- One more edit is made on what the edits before it have built. -/
theorem build_concat (edits : List Edit) (edit : Edit) :
    build (edits ++ [edit]) = (build edits).edit edit := by
  -- A history is replayed from left to right, so the last edit comes last.
  rw [build, replay, List.foldl_append]
  rfl

/-- A list to which every edit adds at most one thing gets all of them, one after another. -/
theorem replay_adds {α : Type} [DecidableEq α] (read : Flowgraph → List α)
    {added? : Edit → Option α}
    (step : ∀ function edit, read (Flowgraph.edit function edit) =
      (added? edit).toList.foldl Distinct.insert (read function))
    (function : Flowgraph) (edits : List Edit) :
    read (function.replay edits) =
      (edits.filterMap added?).foldl Distinct.insert (read function) := by
  -- One step adds its thing or none, and the rest adds to the outcome.
  induction edits generalizing function with
  | nil => rfl
  | cons edit rest ih =>
    have first : function.replay (edit :: rest) = (function.edit edit).replay rest := rfl
    rw [first, ih, step, List.filterMap_cons]
    cases added? edit <;> rfl

/-- Edits add their nodes one after another. -/
theorem nodes_replay (function : Flowgraph) (edits : List Edit) :
    (function.replay edits).nodes =
      (edits.filterMap node?).foldl Distinct.insert function.nodes := by
  -- Nodes come from edits of one kind only.
  refine replay_adds (fun function => function.nodes) ?_ function edits
  intro function edit
  cases edit <;> rfl

/-- Edits add their edges one after another. -/
theorem edges_replay (function : Flowgraph) (edits : List Edit) :
    (function.replay edits).edges =
      (edits.filterMap edge?).foldl Distinct.insert function.edges := by
  -- Only an edit that adds an edge touches the edges.
  refine replay_adds (fun function => function.edges) ?_ function edits
  intro function edit
  cases edit <;> rfl

/-- The nodes that were built are those that were added, each where it came first. -/
theorem nodes_build (edits : List Edit) :
    (build edits).nodes = (edits.filterMap node?).eraseDups := by
  -- Starting from nothing, the first occurrences are those of the whole history.
  rw [build, nodes_replay, ← Distinct.ofList_eq_eraseDups]
  rfl

/-- The edges that were built are those that were added, each where it came first. -/
theorem edges_build (edits : List Edit) :
    (build edits).edges = (edits.filterMap edge?).eraseDups := by
  -- The same holds of the edges.
  rw [build, edges_replay, ← Distinct.ofList_eq_eraseDups]
  rfl

/-- Edges that are registered as the edits add them make the function's edges, on either side. -/
theorem registers_build (edits : List Edit) :
    (ofEdges (edits.filterMap edge?)).Registers (build edits).toGraph := by
  -- An edit registers its edge or leaves the edges alone.
  induction edits using List.reverseRecOn with
  | nil => exact registers_empty
  | append_singleton edits edit ih =>
    rw [build_concat, filterMap_concat, ofEdges, List.foldl_append]
    cases edit with
    | node address => exact ⟨ih.edges, ih.children, ih.parents⟩
    | edge edge => exact ih.addEdge edge
    | block address block => exact ⟨ih.edges, ih.children, ih.parents⟩
    | instruction address instruction => exact ⟨ih.edges, ih.children, ih.parents⟩

/-- A block is found at an address exactly when the edits leave it there. -/
theorem get?_build {edits : List Edit} {address : Address} {block : Block} :
    (build edits).blocks.get? address = some block ↔ Leaves edits address block := by
  -- The last edit gives a block, extends one, or has nothing to do with blocks.
  induction edits using List.reverseRecOn generalizing block with
  | nil => simp [build, replay, empty, Blocks.empty, Blocks.get?, Leaves]
  | append_singleton edits edit ih =>
    rw [build_concat, leaves_concat]
    simp only [← ih]
    cases edit with
    | node start => simp [Flowgraph.edit, addNode, extension?]
    | edge edge => simp [Flowgraph.edit, addEdge, extension?]
    | block start given =>
      -- At the address the given block replaces what was there; at others nothing changes.
      rw [Flowgraph.edit, setBlock, Blocks.get?_set]
      by_cases here : start = address
      · simp [here]
      · simp [here, extension?]
    | instruction start instruction =>
      -- At the address the block becomes longer, if there is one; at others nothing changes.
      rw [Flowgraph.edit, appendInstruction, Blocks.get?_append]
      by_cases here : start = address
      · simp [here, extension?, eq_comm]
      · simp [here, extension?]

/-- A block stands at an address exactly when the address was given one. -/
theorem mem_starts_build {edits : List Edit} {address : Address} :
    address ∈ (build edits).blocks.entries.map (·.1) ↔ address ∈ edits.filterMap start? := by
  -- Among the entries are exactly the blocks that are found.
  rw [← exists_leaves_iff]
  simp only [← get?_build, ← Blocks.mem_entries_iff, List.mem_map, Prod.exists]
  constructor
  · intro listed
    obtain ⟨start, block, member, rfl⟩ := listed
    exact ⟨block, member⟩
  · intro found
    obtain ⟨block, member⟩ := found
    exact ⟨address, block, member, rfl⟩

/-- An address that was given no block has none. -/
theorem get?_build_eq_none {edits : List Edit} {address : Address}
    (ungiven : address ∉ edits.filterMap start?) : (build edits).blocks.get? address = none := by
  -- A block that was found would have been given by some edit.
  apply Option.eq_none_iff_forall_ne_some.mpr
  intro block found
  exact ungiven (exists_leaves_iff.mp ⟨block, get?_build.mp found⟩)

/--
A function holds what the edits that built it decide, and nothing else.

Nodes and edges stand in the order in which they came first, so they are never lost or moved.
Registering every new edge at both of its ends gives the same children and parents as a search.
A block is the last one given to its address, with whatever has extended it since.
Extending is refused where no block was given, and it would change nothing there.
-/
theorem build_holds (edits : List Edit) :
    let function := build edits
    let stored := ofEdges (edits.filterMap edge?)
    function.nodes = (edits.filterMap node?).eraseDups ∧
    function.edges = (edits.filterMap edge?).eraseDups ∧
    stored.edges = function.edges ∧
    (∀ address, Ascending.sort (stored.children address) = function.children address ∧
      Ascending.sort (stored.parents address) = function.parents address) ∧
    (∀ address, (function.children address).Pairwise (· < ·) ∧
      ∀ other, other ∈ function.children address ↔ (address, other) ∈ function.edges) ∧
    (∀ address, (function.parents address).Pairwise (· < ·) ∧
      ∀ other, other ∈ function.parents address ↔ (other, address) ∈ function.edges) ∧
    ((function.blocks.entries.map (·.1)).Pairwise (· < ·) ∧
      ∀ address, address ∈ function.blocks.entries.map (·.1) ↔
        address ∈ edits.filterMap start?) ∧
    (∀ address block, (address, block) ∈ function.blocks.entries ↔ Leaves edits address block) ∧
    (∀ address instruction,
      let extended := build (edits ++ [.instruction address instruction])
      if address ∈ edits.filterMap start? then
        function.extendBlock address instruction = .ok extended
      else
        function.extendBlock address instruction = .error (.noBlock address) ∧
          extended = function) ∧
    ∀ more, function.nodes <+: (build (edits ++ more)).nodes ∧
      function.edges <+: (build (edits ++ more)).edges := by
  intro function stored
  -- The edges were registered one by one, in step with the edits.
  have registers : stored.Registers function.toGraph := registers_build edits
  refine ⟨nodes_build edits, edges_build edits, registers.edges, ?_, ?_, ?_, ?_, ?_, ?_, ?_⟩
  · -- The registers hold the same addresses as the edges, so sorting gives the same lists.
    intro address
    exact ⟨registers.sort_children address, registers.sort_parents address⟩
  · intro address
    exact ⟨Ascending.pairwise_sort _, fun _ => Graph.mem_children⟩
  · intro address
    exact ⟨Ascending.pairwise_sort _, fun _ => Graph.mem_parents⟩
  · -- The map keeps its entries in ascending order, whatever the order of the edits.
    have ascending := List.pairwise_map.mpr function.blocks.ascending
    exact ⟨ascending, fun _ => mem_starts_build⟩
  · intro address block
    rw [Blocks.mem_entries_iff, get?_build]
  · -- Looking for the block decides whether there is anything to extend.
    intro address instruction extended
    have appended : extended = function.appendInstruction address instruction :=
      build_concat edits (.instruction address instruction)
    split
    · next given =>
      obtain ⟨block, leaves⟩ := exists_leaves_iff.mpr given
      rw [extendBlock, get?_build.mpr leaves, appended]
    · next ungiven =>
      have nothing : function.blocks.get? address = none := get?_build_eq_none ungiven
      refine ⟨by rw [extendBlock, nothing], ?_⟩
      rw [appended, appendInstruction, Blocks.append, nothing]
  · -- What is added later comes behind, so the nodes and edges of before stay in front.
    intro more
    simp only [function, nodes_build, edges_build, List.filterMap_append]
    exact ⟨prefix_eraseDups_append _ _, prefix_eraseDups_append _ _⟩

end Flowgraph

end Flowprint
