import Flowprint.Proofs.Flowgraph.History
import Flowprint.Proofs.Graph.Distance

/-!
A neighbourhood does not change when a function is edited far from its center.

The nodes at the rim of a neighbourhood are kept without being looked beyond, so that edits may
touch them. One hop closer to the center they may not.
-/

namespace Flowprint

namespace Graph

/-- A node is near a center if it is fewer than some hops away. -/
def Near (graph : Graph) (center : Address) (hops : Nat) (address : Address) : Prop :=
  address ∈ graph.nodes ∧ graph.hopsBetween center address < hops

variable {graph : Graph} {center address : Address}

/-- The near nodes are those in the levels before the rim. -/
theorem near_succ_iff (member : center ∈ graph.nodes) {hops : Nat} :
    graph.Near center (hops + 1) address ↔ address ∈ graph.levels center hops := by
  -- Less than one hop more means at most so many hops, which is what the levels hold.
  have within : graph.hopsBetween center address < ((hops + 1 : ℕ) : ℕ∞) ↔
      address ∈ graph.levels center hops := by
    rw [mem_levels_iff member, Nat.cast_add, Nat.cast_one]
    exact ENat.lt_add_one_iff (ENat.natCast_ne_top hops)
  rw [Near, within]
  exact and_iff_right_of_imp (mem_nodes_of_mem_levels member)

/-- A level before the rim holds near nodes. -/
theorem near_of_mem_level (member : center ∈ graph.nodes) {hops rim : Nat} (closer : hops < rim)
    (found : address ∈ graph.level center hops) : graph.Near center rim address := by
  have inside := level_subset_levels graph center hops found
  -- What stands in a level is within its hops, and so before the rim.
  refine ⟨mem_nodes_of_mem_levels member inside, ?_⟩
  exact ((mem_levels_iff member).mp inside).trans_lt (by exact_mod_cast closer)

/-- A node that becomes one has no part in the neighbours of an address that it is not joined to. -/
theorem neighbours_addNode {added : Address} (apart : (added, address) ∉ graph.edges ∧
    (address, added) ∉ graph.edges) :
    (graph.addNode added).neighbours address = graph.neighbours address := by
  -- The same addresses are joined to it, and the new node is none of them.
  have nodes : (graph.addNode added).nodes = Distinct.insert graph.nodes added := rfl
  have joined : (graph.addNode added).children address ++ (graph.addNode added).parents address =
      graph.children address ++ graph.parents address := rfl
  rw [neighbours, joined, nodes, neighbours]
  apply List.filter_congr
  intro other listed
  rw [List.mem_append, mem_children, mem_parents] at listed
  have different : other ≠ added := by
    rintro rfl
    exact listed.elim apart.2 apart.1
  simp [different]

/-- An edge plays no part in the neighbours of an address that is none of its ends. -/
theorem neighbours_addEdge {added : Edge} (apart : added.1 ≠ address ∧ added.2 ≠ address) :
    (graph.addEdge added).neighbours address = graph.neighbours address := by
  -- The edge comes last, or it was there.
  have edges : (graph.addEdge added).edges = Distinct.insert graph.edges added := rfl
  -- The search for the edges of the address passes over the new one.
  have unmoved : ∀ joins : Edge → Bool, joins added = false →
      (Distinct.insert graph.edges added).filter joins = graph.edges.filter joins := by
    intro joins passed
    by_cases known : added ∈ graph.edges
    · rw [Distinct.insert, if_pos (by simpa using known)]
    · simp [Distinct.insert_of_notMem known, passed]
  -- It starts elsewhere, so the children stay; it ends elsewhere, so the parents stay.
  have children : (graph.addEdge added).children address = graph.children address := by
    rw [Graph.children, edges, unmoved _ (by simpa using apart.1), Graph.children]
  have parents : (graph.addEdge added).parents address = graph.parents address := by
    rw [Graph.parents, edges, unmoved _ (by simpa using apart.2), Graph.parents]
  rw [neighbours, children, parents, neighbours]
  rfl

end Graph

/--
An edit keeps away from everything near a center.

A new node is not joined to a near node, and a new edge has no near end. Code does not matter.
-/
def Edit.Remote (graph : Graph) (center : Address) (hops : Nat) : Edit → Prop
  | .node added => ∀ near, graph.Near center hops near →
      (added, near) ∉ graph.edges ∧ (near, added) ∉ graph.edges
  | .edge added => ¬graph.Near center hops added.1 ∧ ¬graph.Near center hops added.2
  | .block _ _ => True
  | .instruction _ _ => True

namespace Flowgraph

/-- Each of some edits keeps away from what is near a center at the time when it is made. -/
def RemoteEdits (center : Address) (hops : Nat) : Flowgraph → List Edit → Prop
  | _, [] => True
  | function, edit :: rest =>
    edit.Remote function.toGraph center hops ∧ RemoteEdits center hops (function.edit edit) rest

variable {function : Flowgraph} {center : Address}

/-- A remote edit leaves the near nodes their neighbours. -/
theorem neighbours_edit {hops : Nat} {edit : Edit}
    (remote : edit.Remote function.toGraph center hops) {address : Address}
    (near : function.Near center hops address) :
    (function.edit edit).neighbours address = function.neighbours address := by
  -- Only a node or an edge can change neighbours, and a remote one does not touch these.
  cases edit with
  | node added => exact Graph.neighbours_addNode (remote address near)
  | edge added =>
    refine Graph.neighbours_addEdge ⟨?_, ?_⟩
    · intro same
      exact remote.1 (same ▸ near)
    · intro same
      exact remote.2 (same ▸ near)
  | block start block => rfl
  | instruction start instruction => rfl

/-- A remote edit leaves the surroundings as they are. -/
theorem surroundings_edit (member : center ∈ function.nodes) {distance : Int} {edit : Edit}
    (remote : edit.Remote function.toGraph center distance.toNat) (maxSize : Int) :
    (function.edit edit).surroundings center distance maxSize =
      function.surroundings center distance maxSize := by
  -- Only the neighbours of near nodes are ever looked for.
  have levels : function.levels center distance.toNat =
      (function.edit edit).levels center distance.toNat :=
    (Graph.level_congr fun near closer address found =>
      (neighbours_edit remote (Graph.near_of_mem_level member closer found)).symm).2
  rw [Graph.surroundings_eq (function.nodes_subset_edit edit member),
    Graph.surroundings_eq member, levels]

/-- Remote edits leave the surroundings as they are. -/
theorem surroundings_replay (member : center ∈ function.nodes) {distance : Int}
    {edits : List Edit} (remote : RemoteEdits center distance.toNat function edits)
    (maxSize : Int) :
    (function.replay edits).surroundings center distance maxSize =
      function.surroundings center distance maxSize := by
  -- Each edit is remote when it is made, and it leaves what the next one is judged by.
  induction edits generalizing function with
  | nil => rfl
  | cons edit rest ih =>
    obtain ⟨first, later⟩ := remote
    exact (ih (function.nodes_subset_edit edit member) later).trans
      (surroundings_edit member first maxSize)

/--
Remote edits leave the nodes of a neighbourhood and its edges where they are.

Of the edges that are new to the function, those between kept nodes come at the end, each where
it was added first.
-/
theorem neighbourhood_replay_remote (member : center ∈ function.nodes) (distance maxSize : Int)
    {edits : List Edit} (remote : RemoteEdits center distance.toNat function edits) :
    let after := function.replay edits
    let kept := (function.neighbourhood center distance maxSize).nodes
    let added := ((edits.filterMap Edit.edge?).filter (· ∉ function.edges)).eraseDups
    after.edges = function.edges ++ added ∧
    (after.neighbourhood center distance maxSize).nodes = kept ∧
    (after.neighbourhood center distance maxSize).edges =
      (function.neighbourhood center distance maxSize).edges ++
        added.filter fun edge => edge.1 ∈ kept ∧ edge.2 ∈ kept := by
  intro after kept added
  -- New edges come behind the old ones, each once.
  have edges : after.edges = function.edges ++ added := by
    rw [edges_replay, Distinct.foldl_insert_eq function.edges_distinct]
  -- The edits leave the surroundings, and these are the nodes.
  have same : after.surroundings center distance maxSize =
      function.surroundings center distance maxSize := surroundings_replay member remote maxSize
  have nodes : kept = function.surroundings center distance maxSize :=
    Graph.neighbourhood_nodes function.toGraph center distance maxSize
  refine ⟨edges, ?_, ?_⟩
  · rw [Graph.neighbourhood_nodes, same, nodes]
  · -- The same nodes choose among the old edges and among the new ones.
    rw [Graph.neighbourhood_edges, Graph.neighbourhood_edges, same, edges, List.filter_append,
      nodes]

/-- Edits at the rim of a way of three nodes, one of which turns the end of an edge into a node. -/
theorem neighbourhood_replay_remote_rim :
    let function := build [.node 1, .node 2, .node 3, .edge (1, 2), .edge (3, 2), .edge (3, 4)]
    let edits := [.node 4, .edge (4, 3), .edge (3, 3)]
    1 ∈ function.nodes ∧ RemoteEdits 1 2 function edits ∧
    (function.neighbourhood 1 2 30).nodes = [1, 2, 3] ∧
    ((function.replay edits).neighbourhood 1 2 30).nodes = [1, 2, 3] ∧
    ((function.replay edits).neighbourhood 1 2 30).edges = [(1, 2), (3, 2), (3, 3)] := by
  intro function edits
  have member : 1 ∈ function.nodes := by decide
  -- Whether a node is near can be read off the levels before the rim.
  have near {function : Flowgraph} (member : 1 ∈ function.nodes) (address : Address) :
      function.Near 1 2 address ↔ address ∈ function.levels 1 1 := Graph.near_succ_iff member
  -- Each edit is judged by the function that it finds.
  have remote : RemoteEdits 1 2 function edits := by
    refine ⟨?_, ?_, ?_, trivial⟩
    · simp only [Edit.Remote, near member]
      decide +kernel
    · simp only [Edit.Remote, near (function.nodes_subset_edit _ member)]
      decide +kernel
    · simp only [Edit.Remote, near (nodes_subset_edit _ _ (function.nodes_subset_edit _ member))]
      decide +kernel
  have kept : (function.neighbourhood 1 2 30).nodes = [1, 2, 3] := by decide +kernel
  -- The nodes stay, and the edges that are added can be computed.
  obtain ⟨-, nodes, edges⟩ := neighbourhood_replay_remote member 2 30 remote
  refine ⟨member, remote, kept, nodes.trans kept, edges.trans ?_⟩
  decide +kernel

end Flowgraph

end Flowprint
