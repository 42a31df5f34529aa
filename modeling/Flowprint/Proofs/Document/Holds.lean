import Flowprint.Document.Decode
import Mathlib.Data.List.Forall2

/-! What the elements of a document hold, stated by their fields, is what reading finds in them. -/

namespace Flowprint

/-- A mapping succeeds on a list exactly when it succeeds on every item. -/
theorem mapM_eq_some_iff {α β : Type} {read : α → Option β} {items : List α} {found : List β} :
    items.mapM read = some found ↔
      List.Forall₂ (fun item thing => read item = some thing) items found := by
  -- The head is read first, and nothing is returned until the whole rest has been read.
  induction items generalizing found with
  -- An empty list is read as one.
  | nil => simp [eq_comm]
  | cons item rest ih =>
    rw [List.mapM_cons]
    simp only [Option.bind_eq_bind, Option.pure_def, Option.bind_eq_some_iff, Option.some.injEq]
    constructor
    · -- The head gives the first thing, and the rest gives the others.
      rintro ⟨thing, first, things, later, rfl⟩
      exact List.Forall₂.cons first (ih.mp later)
    · -- A list of things has a first one, which the head was read as.
      intro all
      cases all with
      | cons first later => exact ⟨_, first, _, ih.mpr later, rfl⟩

/-- If two readings do not both succeed, then one of them fails. -/
theorem eq_none_or_eq_none {α β : Type} {first : Option α} {second : Option β}
    (notBoth : ∀ one other, first = some one → second = some other → False) :
    first = none ∨ second = none := by
  -- The cases are whether the first reading succeeds, and then whether the second does.
  cases first with
  | none => exact Or.inl rfl
  | some one =>
    cases second with
    | none => exact Or.inr rfl
    | some other => exact (notBoth one other rfl rfl).elim

/-- Where each value holds exactly its own thing, values hold things only one for one. -/
theorem forall₂_map_iff {α β : Type} {holds : Json → β → Prop} {write : α → Json}
    {good : α → Prop} (own : α → β)
    (fits : ∀ thing held, holds (write thing) held ↔ held = own thing ∧ good thing)
    {things : List α} {held : List β} :
    List.Forall₂ holds (things.map write) held ↔
      held = things.map own ∧ ∀ thing ∈ things, good thing := by
  -- Each pair of the relation fixes one held thing.
  induction things generalizing held with
  | nil => simp
  | cons first rest ih =>
    cases held with
    | nil => simp
    | cons head tail =>
      rw [List.map_cons, List.forall₂_cons, fits, ih, List.map_cons, List.cons.injEq,
        List.forall_mem_cons]
      exact and_and_and_comm

namespace Json

/-- Only an array has items. -/
theorem items?_eq_some_iff {value : Json} {items : List Json} :
    value.items? = some items ↔ value = .array items := by
  -- The cases are the kinds of values, and one of them has items.
  cases value <;> simp [items?]

/-- Only a text has a text. -/
theorem text?_eq_some_iff {value : Json} {text : String} :
    value.text? = some text ↔ value = .string text := by
  -- The cases are the kinds of values, and one of them has a text.
  cases value <;> simp [text?]

end Json

namespace Document

/-- An object with a mnemonic that is not empty, and an array of texts as operands. -/
def HoldsInstruction (value : Json) (instruction : Instruction) : Prop :=
  value.field? "mnemonic" = some (.string instruction.mnemonic) ∧ instruction.mnemonic ≠ "" ∧
  value.field? "operands" = some (.array (instruction.operands.map .string))

/-- An object with an address of 64 bits, and an array of instructions. -/
def HoldsNode (value : Json) (node : Address × Block) : Prop :=
  value.field? "address" = some (.integer node.1) ∧ node.1.Documented ∧
  ∃ entries, value.field? "instructions" = some (.array entries) ∧
    List.Forall₂ HoldsInstruction entries node.2

/-- An object with two addresses of 64 bits. -/
def HoldsEdge (value : Json) (edge : Edge) : Prop :=
  value.field? "source" = some (.integer edge.1) ∧ edge.1.Documented ∧
  value.field? "destination" = some (.integer edge.2) ∧ edge.2.Documented

/-- An address is read from an integer of 64 bits and from nothing else. -/
theorem address?_eq_some_iff {value : Json} {address : Address} :
    value.address? = some address ↔ value = .integer address ∧ address.Documented := by
  cases value with
  | integer number =>
    -- An integer is an address unless it is too large or negative.
    simp only [Json.address?, Json.integer.injEq]
    split
    · next documented => grind
    · next undocumented => grind
  | _ => simp [Json.address?]

/-- The texts of an array are read when all of its items are texts. -/
theorem mapM_text?_eq_some_iff {items : List Json} {texts : List String} :
    items.mapM Json.text? = some texts ↔ items = texts.map .string := by
  -- Every text has one value that it is read from, so the texts determine the items.
  rw [mapM_eq_some_iff]
  constructor
  · intro all
    induction all with
    | nil => rfl
    | @cons item text _ _ first _ ih =>
      cases item <;> simp_all [Json.text?]
  · rintro rfl
    simp [List.forall₂_map_left_iff, Json.text?, List.forall₂_same]

/-- The instruction that is read from a value is the one it holds. -/
theorem ofJson?_eq_some_iff {value : Json} {instruction : Instruction} :
    Instruction.ofJson? value = some instruction ↔ HoldsInstruction value instruction := by
  -- Reading asks for the fields one after another, and for the mnemonic's letters at the end.
  obtain ⟨mnemonic, operands⟩ := instruction
  simp only [Instruction.ofJson?, HoldsInstruction, Option.bind_eq_bind, Option.bind_eq_some_iff,
    Json.items?_eq_some_iff, Json.text?_eq_some_iff]
  constructor
  · -- What was read in turn is what the value holds.
    rintro ⟨_, atMnemonic, text, rfl, _, atOperands, items, rfl, texts, all, made⟩
    split at made
    · cases made
    · -- The mnemonic has letters, so this is the answer.
      next named =>
      cases made
      rw [mapM_text?_eq_some_iff] at all
      exact ⟨atMnemonic, named, by rw [atOperands, all]⟩
  · -- What the value holds is found in turn.
    rintro ⟨atMnemonic, named, atOperands⟩
    refine ⟨_, atMnemonic, mnemonic, rfl, _, atOperands, _, rfl, operands, ?_, ?_⟩
    · exact mapM_text?_eq_some_iff.mpr rfl
    · rw [if_neg named]

/-- Why a value is refused as a node: the fields come first, then the address, then the code. -/
inductive RefusedNode (value : Json) : Diagnosis → Prop where
  /-- A field is missing, or the value is no object. -/
  | missing (lacks : value.field? "address" = none ∨ value.field? "instructions" = none) :
    RefusedNode value .nodeMissingFields
  /-- The address is none, or the instructions are no array. -/
  | invalid {address instructions : Json} (atAddress : value.field? "address" = some address)
    (atInstructions : value.field? "instructions" = some instructions)
    (bad : (∀ start : Address, ¬(address = .integer start ∧ start.Documented)) ∨
      ∀ entries, instructions ≠ .array entries) :
    RefusedNode value (.nodeInvalid address.nesting)
  /-- One of the instructions is none, and all before it are good. -/
  | malformed {start : Address} {good rest : List Json} {entry : Json}
    (atAddress : value.field? "address" = some (.integer start)) (documented : start.Documented)
    (atInstructions : value.field? "instructions" = some (.array (good ++ entry :: rest)))
    (before : ∀ earlier ∈ good, ∃ instruction, HoldsInstruction earlier instruction)
    (bad : ∀ instruction, ¬HoldsInstruction entry instruction) :
    RefusedNode value (.malformedInstruction start entry.nesting)

/-- Why a value is refused as an edge. -/
inductive RefusedEdge (value : Json) : Diagnosis → Prop where
  /-- A field is missing, or the value is no object. -/
  | missing (lacks : value.field? "source" = none ∨ value.field? "destination" = none) :
    RefusedEdge value .edgeMissingFields
  /-- One of the ends is no address. -/
  | invalid {source destination : Json} (atSource : value.field? "source" = some source)
    (atDestination : value.field? "destination" = some destination)
    (bad : (∀ start : Address, ¬(source = .integer start ∧ start.Documented)) ∨
      ∀ stop : Address, ¬(destination = .integer stop ∧ stop.Documented)) :
    RefusedEdge value (.edgeInvalid (max source.nesting destination.nesting))

/-- A value holds no address exactly when it is no integer of 64 bits. -/
theorem address?_eq_none_iff {value : Json} :
    value.address? = none ↔ ∀ start : Address, ¬(value = .integer start ∧ start.Documented) := by
  -- Both sides say of every address that it is not read.
  simp only [← address?_eq_some_iff, Option.eq_none_iff_forall_ne_some, ne_eq]

/-- The node that is read from a value is the one it holds. -/
theorem node_eq_ok_iff {value : Json} {held : Address × Block} :
    node value = .ok held ↔ HoldsNode value held := by
  obtain ⟨address, block⟩ := held
  constructor
  · -- The branches of the reading are followed, and all but one of them refuse.
    intro read
    unfold node at read
    split at read
    · next start entries atAddress atInstructions =>
      split at read
      · next address entries isAddress isArray =>
        split at read
        · -- This is the one branch that answers with a node.
          next block all =>
          cases read
          obtain ⟨rfl, documented⟩ := address?_eq_some_iff.mp isAddress
          rw [Json.items?_eq_some_iff] at isArray
          refine ⟨atAddress, documented, entries, isArray ▸ atInstructions, ?_⟩
          exact (mapM_eq_some_iff.mp all).imp fun _ _ => ofJson?_eq_some_iff.mp
        · cases read
      · cases read
    · cases read
  · -- Each part of the node is read as it is held.
    rintro ⟨atAddress, documented, entries, atInstructions, all⟩
    have isAddress := address?_eq_some_iff.mpr ⟨rfl, documented⟩
    have read : entries.mapM Instruction.ofJson? = some block :=
      mapM_eq_some_iff.mpr (all.imp fun _ _ => ofJson?_eq_some_iff.mpr)
    simp only [node, atAddress, atInstructions, isAddress, Json.items?, read]

/-- An array is no block exactly when it has an item that is no instruction. -/
theorem mapM_ofJson?_eq_none_iff {entries : List Json} :
    entries.mapM Instruction.ofJson? = none ↔ ∃ good entry rest, entries = good ++ entry :: rest ∧
      (∀ earlier ∈ good, ∃ instruction, HoldsInstruction earlier instruction) ∧
      (∀ instruction, ¬HoldsInstruction entry instruction) ∧
      refusedNesting entries = entry.nesting := by
  simp only [← ofJson?_eq_some_iff]
  constructor
  · -- The search for a bad item follows the mapping, which stops at the first one.
    intro nothing
    induction entries with
    | nil => simp at nothing
    | cons head tail ih =>
      -- A head that is none is the first bad item itself.
      cases read : Instruction.ofJson? head with
      | none => exact ⟨[], head, tail, rfl, by simp, by simp [read], by simp [refusedNesting, read]⟩
      | some instruction =>
        -- The first bad item stands behind the head.
        have later : tail.mapM Instruction.ofJson? = none := by
          rw [List.mapM_cons, read] at nothing
          cases all : tail.mapM Instruction.ofJson? with
          | none => rfl
          | some block => simp [all] at nothing
        obtain ⟨good, entry, rest, rfl, before, bad, nesting⟩ := ih later
        refine ⟨head :: good, entry, rest, rfl, ?_, bad, ?_⟩
        · -- The head is good, and so are the items that were good before.
          intro earlier member
          rcases List.mem_cons.mp member with rfl | deeper
          · exact ⟨instruction, read⟩
          · exact before earlier deeper
        · simpa [refusedNesting, read] using nesting
  · -- The mapping meets the bad item, whatever stands around it.
    rintro ⟨good, entry, rest, rfl, -, bad, -⟩
    have unread : Instruction.ofJson? entry = none := Option.eq_none_iff_forall_ne_some.mpr bad
    simp [List.mapM_append, List.mapM_cons, unread]

/-- The reason for which a value is refused as a node is the first one that applies. -/
theorem refusedNode_of_node_eq_error {value : Json} {diagnosis : Diagnosis}
    (refused : node value = .error diagnosis) : RefusedNode value diagnosis := by
  -- The branches that refuse are gone through in the order in which they are tried.
  unfold node at refused
  split at refused
  · next start entries atAddress atInstructions =>
    split at refused
    · next address entries isAddress isArray =>
      obtain ⟨rfl, documented⟩ := address?_eq_some_iff.mp isAddress
      rw [Json.items?_eq_some_iff] at isArray
      -- Address and array are there, so one of the instructions is malformed.
      split at refused
      · cases refused
      · next none =>
        -- The first bad one is what is quoted.
        cases refused
        obtain ⟨good, entry, rest, rfl, before, bad, nesting⟩ := mapM_ofJson?_eq_none_iff.mp none
        rw [nesting]
        exact .malformed atAddress documented (isArray ▸ atInstructions) before bad
    · next notBoth =>
      -- Of the address and the array at least one is missing.
      cases refused
      refine .invalid atAddress atInstructions ?_
      rcases eq_none_or_eq_none notBoth with noAddress | noArray
      · exact Or.inl (address?_eq_none_iff.mp noAddress)
      · refine Or.inr ?_
        rintro items rfl
        cases noArray
  · -- One of the two fields is not there.
    next notBoth =>
    cases refused
    exact .missing (eq_none_or_eq_none notBoth)

/-- The edge that is read from a value is the one it holds. -/
theorem edge_eq_ok_iff {value : Json} {held : Edge} :
    edge value = .ok held ↔ HoldsEdge value held := by
  obtain ⟨start, stop⟩ := held
  constructor
  · -- The branches of the reading are followed, and one of them answers with an edge.
    intro read
    unfold edge at read
    split at read
    · next source destination atSource atDestination =>
      split at read
      · next start stop isStart isStop =>
        cases read
        obtain ⟨rfl, startDocumented⟩ := address?_eq_some_iff.mp isStart
        obtain ⟨rfl, stopDocumented⟩ := address?_eq_some_iff.mp isStop
        exact ⟨atSource, startDocumented, atDestination, stopDocumented⟩
      · cases read
    · cases read
  · -- Each end is read as it is held.
    rintro ⟨atSource, startDocumented, atDestination, stopDocumented⟩
    have isStart := address?_eq_some_iff.mpr ⟨rfl, startDocumented⟩
    have isStop := address?_eq_some_iff.mpr ⟨rfl, stopDocumented⟩
    simp only [edge, atSource, atDestination, isStart, isStop]

/-- The reason for which a value is refused as an edge is the first one that applies. -/
theorem refusedEdge_of_edge_eq_error {value : Json} {diagnosis : Diagnosis}
    (refused : edge value = .error diagnosis) : RefusedEdge value diagnosis := by
  -- An edge has no parts but its ends, so there is one branch fewer than for a node.
  unfold edge at refused
  split at refused
  · next source destination atSource atDestination =>
    split at refused
    · cases refused
    · -- Of the two ends at least one is no address.
      next notBoth =>
      cases refused
      refine .invalid atSource atDestination ?_
      rcases eq_none_or_eq_none notBoth with noStart | noStop
      · exact Or.inl (address?_eq_none_iff.mp noStart)
      · exact Or.inr (address?_eq_none_iff.mp noStop)
  · -- One of the two fields is not there.
    next notBoth =>
    cases refused
    exact .missing (eq_none_or_eq_none notBoth)

end Document

end Flowprint
