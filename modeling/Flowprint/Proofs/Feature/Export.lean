import Flowprint.Proofs.Document.Expressible
import Flowprint.Proofs.Feature.Collection
import Flowprint.Proofs.Graph.Levels

/-! The features of a function that was read can be written, and they read back from their bytes. -/

namespace Flowprint

open Json

/-- The ends of an edge that a neighbourhood holds are nodes of it. -/
theorem Graph.mem_of_mem_edges_neighbourhood {graph : Graph} {center : Address}
    {distance maxSize : Int} {edge : Edge}
    (member : edge ∈ (graph.neighbourhood center distance maxSize).edges) :
    edge.1 ∈ graph.surroundings center distance maxSize ∧
      edge.2 ∈ graph.surroundings center distance maxSize := by
  -- An edge is kept if both of its ends are.
  simpa using (List.mem_filter.mp member).2

namespace Features

variable {neighbourhood : Neighbourhood} {features : Features} {function : Flowgraph}

/-- A neighbourhood can be written if all of its numbers can. -/
theorem obstacle?_neighbourhoodJson {above : Nat} (room : above + 2 < maxWrittenDepth)
    (center : Fits neighbourhood.center) (distance : Fits neighbourhood.distance)
    (nodes : ∀ address ∈ neighbourhood.nodes, Fits address)
    (edges : ∀ edge ∈ neighbourhood.edges, Fits edge.1 ∧ Fits edge.2) :
    obstacle? above (neighbourhoodJson neighbourhood) = none := by
  -- The numbers stand in three containers at most.
  have outside : above < maxWrittenDepth := by omega
  have inside : above + 1 < maxWrittenDepth := by omega
  -- The nodes are one list of numbers.
  have listed : obstacleAmong? (above + 1 + 1) (neighbourhood.nodes.map .integer) = none := by
    rw [obstacleAmong?_eq_none_iff, List.forall_mem_map]
    intro address member
    exact obstacle?_integer.mpr (nodes address member)
  -- Each edge is a list of two numbers.
  have joined : obstacleAmong? (above + 1 + 1) (neighbourhood.edges.map fun edge =>
      .array [.integer edge.1, .integer edge.2]) = none := by
    rw [obstacleAmong?_eq_none_iff, List.forall_mem_map]
    intro edge member
    obtain ⟨first, second⟩ := edges edge member
    simp only [obstacle?_array, obstacleAmong?_cons, obstacle?_integer]
    exact ⟨room, first, second, rfl⟩
  simp only [neighbourhoodJson, obstacle?_object, obstacleUnder?_cons, obstacle?_array,
    obstacle?_integer, obstacleUnder?_nil]
  exact ⟨outside, center, distance, ⟨inside, listed⟩, ⟨inside, joined⟩, trivial⟩

/-- Features can be written if their neighbourhoods can. -/
theorem obstacle?_toJson (writable : ∀ neighbourhood ∈ features.subgraphs,
    obstacle? 2 (neighbourhoodJson neighbourhood) = none) : obstacle? 0 features.toJson = none := by
  -- The features stand in nothing, and their entries stand in two containers.
  have room : 0 < maxWrittenDepth := by decide
  have inside : 0 + 1 < maxWrittenDepth := by decide
  have deeper : 0 + 1 + 1 < maxWrittenDepth := by decide
  -- The tuples hold texts only.
  have tuples : obstacleAmong? (0 + 1 + 1)
      (features.tuples.map fun tuple => .array (tuple.map .string)) = none := by
    rw [obstacleAmong?_eq_none_iff, List.forall_mem_map]
    intro tuple _
    rw [obstacle?_array, obstacleAmong?_eq_none_iff, List.forall_mem_map]
    exact ⟨deeper, fun _ _ => rfl⟩
  -- Each neighbourhood is given as writable where it stands.
  have subgraphs :
      obstacleAmong? (0 + 1 + 1) (features.subgraphs.map neighbourhoodJson) = none := by
    rw [obstacleAmong?_eq_none_iff, List.forall_mem_map]
    exact writable
  simp only [toJson, obstacle?_object, obstacleUnder?_cons, obstacle?_array, obstacleUnder?_nil]
  exact ⟨room, ⟨inside, subgraphs⟩, ⟨inside, tuples⟩, trivial⟩

/-- Features have no decimal and no key twice. -/
theorem exact_toJson (features : Features) : Exact features.toJson := by
  -- The keys of every object are fixed and different.
  have edge (edge : Edge) : Exact (.array [.integer edge.1, .integer edge.2]) :=
    ⟨trivial, trivial, trivial⟩
  -- A neighbourhood has four keys, numbers and two lists.
  have neighbourhood (neighbourhood : Neighbourhood) : Exact (neighbourhoodJson neighbourhood) := by
    have keys : (["center", "distance", "nodes", "edges"] : List String).Nodup := by decide
    refine ⟨keys, trivial, trivial, exactAmong_iff.mpr ?_, exactAmong_iff.mpr ?_, trivial⟩
    · exact List.forall_mem_map.mpr fun _ _ => trivial
    · exact List.forall_mem_map.mpr fun other _ => edge other
  -- A tuple is a list of texts.
  have tuple (tuple : List String) : Exact (.array (tuple.map .string)) :=
    exactAmong_iff.mpr (List.forall_mem_map.mpr fun _ _ => trivial)
  have keys : (["subgraphs", "mnemonic_tuples"] : List String).Nodup := by decide
  refine ⟨keys, exactAmong_iff.mpr ?_, exactAmong_iff.mpr ?_, trivial⟩
  · exact List.forall_mem_map.mpr fun other _ => neighbourhood other
  · exact List.forall_mem_map.mpr fun other _ => tuple other

/-- Every neighbourhood that is asked for in a documented function can be written. -/
theorem obstacle?_entry (documented : ∀ address, function.Names address → address.Documented)
    {request : Address × Nat} (asked : request ∈ Generator.requestsFor function.nodes) :
    obstacle? 2 (neighbourhoodJson (entry function.toGraph request request.2)) = none := by
  -- Documented addresses fit, and every address in question is one.
  have fits : ∀ address ∈ function.nodes, Fits address :=
    fun address member => (documented address (Or.inl member)).fits
  have within := Graph.surroundings_subset function.toGraph request.1 request.2 maxSubgraphNodes
  -- The center, the nodes and the ends of the edges are nodes of the function.
  obtain ⟨center, distance⟩ := Generator.mem_requestsFor.mp asked
  apply obstacle?_neighbourhoodJson (by decide)
  · -- The center is a node.
    exact fits _ center
  · -- The distance is small, whichever of the two it is.
    have label : Fits (request.2 : Nat) := by
      rcases distance with two | three
      · rw [two]; decide
      · rw [three]; decide
    exact label
  · -- The nodes of the neighbourhood are among those of the function.
    intro address member
    refine fits address (within ?_)
    rwa [← Graph.neighbourhood_nodes]
  · -- So are the ends of its edges.
    intro edge member
    obtain ⟨first, second⟩ := Graph.mem_of_mem_edges_neighbourhood member
    exact ⟨fits edge.1 (within first), fits edge.2 (within second)⟩

/-- The features of a function with documented addresses are written, and they read back. -/
theorem exists_text_ofFunction
    (documented : ∀ address, function.Names address → address.Documented) :
    ∃ features text, ofFunction function = .ok features ∧ features.toJson.text = .ok text ∧
      readBytes? text.toUTF8 = some features.toJson := by
  -- The features are those of a new generator, whose requests are known.
  obtain ⟨features, collected, listed⟩ : ∃ features, ofFunction function = .ok features ∧
      features.subgraphs = (Generator.requestsFor function.nodes).map fun request =>
        entry function.toGraph request request.2 := by
    rw [ofFunction, collect_new]
    exact ⟨_, rfl, rfl⟩
  -- Each of them can be written where it stands, so there is no obstacle at all.
  have writable : obstacle? 0 features.toJson = none := by
    refine obstacle?_toJson ?_
    rw [listed, List.forall_mem_map]
    exact fun request asked => obstacle?_entry documented asked
  -- What is written is read back, since no key repeats and nothing is a decimal.
  have written : features.toJson.text = .ok (String.ofList (features.toJson.write 0)) := by
    rw [text, writable]
  exact ⟨features, _, collected, written, readBytes?_text (exact_toJson features) written⟩

end Features

end Flowprint
