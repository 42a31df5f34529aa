import Flowprint.Document.Encode
import Flowprint.Proofs.Document.Holds
import Flowprint.Proofs.Json.Tokens

/-! The document of a function, piece by piece: when it can be written, and what it holds. -/

namespace Flowprint

namespace Json

/-- All of some values are exact exactly when each of them is. -/
theorem exactAmong_iff {items : List Json} : ExactAmong items ↔ ∀ item ∈ items, Exact item := by
  -- The induction is on the values, one condition for each.
  induction items with
  | nil => simp [ExactAmong]
  | cons item rest ih => rw [ExactAmong, ih, List.forall_mem_cons]

/-- Things that are all written at most so deep are at most so deep together. -/
theorem nestingAmong_map_le {α : Type} {write : α → Json} {bound : Nat}
    (shallow : ∀ thing, (write thing).nesting ≤ bound) (things : List α) :
    nestingAmong (things.map write) ≤ bound := by
  -- The induction is on the things, each of which has its place below the maximum.
  induction things with
  | nil => exact Nat.zero_le _
  | cons thing rest ih =>
    rw [List.map_cons, nestingAmong]
    exact Nat.max_le.mpr ⟨shallow thing, ih⟩

end Json

/-- A documented address can be written. -/
theorem Address.Documented.fits {address : Address} (documented : address.Documented) :
    Json.Fits address := by
  -- An address is not negative, so the lower bound is far away.
  obtain ⟨low, high⟩ := documented
  exact ⟨Int.le_trans (by decide) low, high⟩

namespace Flowgraph

open Document Json

variable {function : Flowgraph} {address : Address} {edge : Edge} {instruction : Instruction}

/-- The addresses that stand in a function: its nodes and the ends of its edges. -/
def Names (function : Flowgraph) (address : Address) : Prop :=
  address ∈ function.nodes ∨ ∃ edge ∈ function.edges, address = edge.1 ∨ address = edge.2

/-- Every instruction of a block is called something. -/
def Called (block : Block) : Prop := ∀ instruction ∈ block, instruction.mnemonic ≠ ""

/-- Nothing stands in the way of writing an instruction. -/
theorem obstacle?_instruction {above : Nat} (room : above + 1 < maxWrittenDepth) :
    obstacle? above instruction.toJson = none := by
  -- It holds texts only, so nothing but its depth could stand in the way.
  have outside : above < maxWrittenDepth := by omega
  have operands : obstacleAmong? (above + 1 + 1) (instruction.operands.map .string) = none := by
    rw [obstacleAmong?_eq_none_iff, List.forall_mem_map]
    intro text _
    rfl
  rw [Instruction.toJson, obstacle?_object, obstacleUnder?_cons, obstacleUnder?_cons,
    obstacle?_array]
  exact ⟨outside, rfl, ⟨room, operands⟩, rfl⟩

/-- A node can be written if its address can. -/
theorem obstacle?_nodeJson {above : Nat} (room : above + 3 < maxWrittenDepth) :
    obstacle? above (function.nodeJson address) = none ↔ Fits address := by
  -- The address is the only number, and the block is below it in depth.
  have outside : above < maxWrittenDepth := by omega
  have inside : above + 1 < maxWrittenDepth := by omega
  have block : obstacleAmong? (above + 1 + 1)
      ((function.blockAt address).map Instruction.toJson) = none := by
    rw [obstacleAmong?_eq_none_iff, List.forall_mem_map]
    intro instruction _
    exact obstacle?_instruction (by omega)
  simp only [nodeJson, obstacle?_object, obstacleUnder?_cons, obstacle?_array, obstacle?_integer,
    obstacleUnder?_nil, outside, inside, block, and_self, and_true, true_and]

/-- An edge can be written if both of its ends can. -/
theorem obstacle?_edgeJson {above : Nat} (room : above < maxWrittenDepth) :
    obstacle? above (edgeJson edge) = none ↔ Fits edge.1 ∧ Fits edge.2 := by
  -- The edge has two fields, and in each of them one integer.
  simp only [edgeJson, obstacle?_object, obstacleUnder?_cons, obstacle?_integer,
    obstacleUnder?_nil, room, and_true, true_and]

/-- A function can be written if all of its addresses can. -/
theorem obstacle?_toJson :
    obstacle? 0 function.toJson = none ↔ ∀ address, function.Names address → Fits address := by
  -- The document stands in nothing, and its elements stand in two containers.
  have room : 0 < maxWrittenDepth := by decide
  have inside : 0 + 1 < maxWrittenDepth := by decide
  simp only [toJson, obstacle?_object, obstacleUnder?_cons, obstacle?_array,
    obstacleUnder?_nil, obstacleAmong?_eq_none_iff, List.forall_mem_map, room, inside, true_and,
    and_true]
  constructor
  · -- Everything was written, so each address was.
    rintro ⟨nodes, edges⟩ address (member | ⟨edge, member, rfl | rfl⟩)
    · exact (obstacle?_nodeJson (by decide)).mp (nodes address member)
    · exact ((obstacle?_edgeJson (by decide)).mp (edges edge member)).1
    · exact ((obstacle?_edgeJson (by decide)).mp (edges edge member)).2
  · -- Each address fits, so each element can be written.
    intro fits
    refine ⟨?_, ?_⟩
    · intro address member
      exact (obstacle?_nodeJson (by decide)).mpr (fits address (Or.inl member))
    · intro edge member
      have first := fits edge.1 (Or.inr ⟨edge, member, Or.inl rfl⟩)
      have second := fits edge.2 (Or.inr ⟨edge, member, Or.inr rfl⟩)
      exact (obstacle?_edgeJson (by decide)).mpr ⟨first, second⟩

/-- An instruction nests three deep at most. -/
theorem nesting_instruction : instruction.toJson.nesting ≤ 3 := by
  -- The object, the array of operands and an operand make three.
  have operands : nestingAmong (instruction.operands.map .string) ≤ 1 :=
    nestingAmong_map_le (fun _ => Nat.le_refl 1) instruction.operands
  simp only [Instruction.toJson, nesting, nestingUnder]
  omega

/-- A node nests five deep at most. -/
theorem nesting_nodeJson : (function.nodeJson address).nesting ≤ 5 := by
  -- The object and the array of instructions stand around the instructions.
  have block : nestingAmong ((function.blockAt address).map Instruction.toJson) ≤ 3 :=
    nestingAmong_map_le (fun _ => nesting_instruction) (function.blockAt address)
  simp only [nodeJson, nesting, nestingUnder]
  omega

/-- The document of a function nests seven deep at most, however large the function is. -/
theorem nesting_toJson : function.toJson.nesting ≤ 7 := by
  -- Nodes are deeper than edges, and two containers stand around them.
  have nodes : nestingAmong (function.nodes.map function.nodeJson) ≤ 5 :=
    nestingAmong_map_le (fun _ => nesting_nodeJson) function.nodes
  have edges : nestingAmong (function.edges.map edgeJson) ≤ 2 :=
    nestingAmong_map_le (fun _ => Nat.le_refl 2) function.edges
  simp only [toJson, nesting, nestingUnder]
  omega

/-- The document of a function has no decimal and no key twice. -/
theorem exact_toJson : Exact function.toJson := by
  -- The keys of every object in it are fixed and different.
  have instruction (instruction : Instruction) : Exact instruction.toJson := by
    simp [Instruction.toJson, Exact, ExactUnder, exactAmong_iff]
  have node (address : Address) : Exact (function.nodeJson address) := by
    simp [nodeJson, Exact, ExactUnder, exactAmong_iff, instruction]
  have edge (edge : Edge) : Exact (edgeJson edge) := by
    simp [edgeJson, Exact, ExactUnder]
  have keys : (["nodes", "edges"] : List String).Nodup := by decide
  simp only [toJson, Exact, ExactUnder, exactAmong_iff, List.forall_mem_map]
  exact ⟨keys, fun address _ => node address, fun other _ => edge other, trivial⟩

/-- An instruction that is called something is held by its own object, and no other one is. -/
theorem holdsInstruction_toJson {held : Instruction} :
    HoldsInstruction instruction.toJson held ↔ held = instruction ∧ instruction.mnemonic ≠ "" := by
  -- The operands are read back because different texts are different values.
  obtain ⟨mnemonic, operands⟩ := held
  have injective : (Json.string : String → Json).Injective := fun _ _ same => Json.string.inj same
  simp only [HoldsInstruction, Instruction.toJson, field?, List.find?_cons, decide_true,
    Option.map_some, Option.some.injEq, Json.string.injEq, Json.array.injEq, decide_false,
    String.reduceEq, (List.map_injective_iff.mpr injective).eq_iff]
  constructor
  · rintro ⟨rfl, named, rfl⟩
    exact ⟨rfl, named⟩
  · rintro ⟨rfl, named⟩
    exact ⟨rfl, named, rfl⟩

/-- A block of instructions that are called something is held by its own array. -/
theorem holdsInstruction_block {block held : Block} :
    List.Forall₂ HoldsInstruction (block.map Instruction.toJson) held ↔
      held = block ∧ Called block := by
  -- Writing a block goes instruction by instruction.
  have items : List.Forall₂ HoldsInstruction (block.map Instruction.toJson) held ↔
      held = block.map id ∧ Called block :=
    forall₂_map_iff id fun _ _ => holdsInstruction_toJson
  rwa [List.map_id] at items

/-- A node with a documented address and a block that can be held is held by its own object. -/
theorem holdsNode_nodeJson {held : Address × Block} :
    HoldsNode (function.nodeJson address) held ↔ held = (address, function.blockAt address) ∧
      address.Documented ∧ Called (function.blockAt address) := by
  -- Both fields are found under their keys, so only their contents can be refused.
  obtain ⟨start, block⟩ := held
  simp only [HoldsNode, nodeJson, field?, List.find?_cons, decide_true, decide_false,
    String.reduceEq, Option.map_some, Option.some.injEq, Json.integer.injEq, Json.array.injEq,
    Prod.mk.injEq]
  constructor
  · rintro ⟨rfl, documented, entries, rfl, all⟩
    obtain ⟨rfl, called⟩ := holdsInstruction_block.mp all
    exact ⟨⟨rfl, rfl⟩, documented, called⟩
  · rintro ⟨⟨rfl, rfl⟩, documented, called⟩
    exact ⟨rfl, documented, _, rfl, holdsInstruction_block.mpr ⟨rfl, called⟩⟩

/-- An edge between documented addresses is held by its own object. -/
theorem holdsEdge_edgeJson {held : Edge} :
    HoldsEdge (edgeJson edge) held ↔ held = edge ∧ edge.1.Documented ∧ edge.2.Documented := by
  -- Both ends are found under their keys.
  obtain ⟨start, stop⟩ := held
  simp only [HoldsEdge, edgeJson, field?, List.find?_cons, decide_true, decide_false,
    String.reduceEq, Option.map_some, Option.some.injEq, Json.integer.injEq]
  constructor
  · rintro ⟨rfl, first, rfl, second⟩
    exact ⟨rfl, first, second⟩
  · rintro ⟨rfl, first, second⟩
    exact ⟨rfl, first, rfl, second⟩

end Flowgraph

end Flowprint
