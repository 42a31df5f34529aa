import Flowprint.Json.Value
import Mathlib.Data.List.Forall2

/-!
A shape says which fields of a value are looked at, and how deep.

Unknown fields can be stripped off, and known ones can be put in another order. Neither changes
what is found under a known key, and a value never nests deeper for it.
-/

namespace Flowprint.Json

/-- The same fields in an order in which those under any one key come as before. -/
def SameFields (first second : List (String × Json)) : Prop :=
  -- Where no key comes twice, this is any order at all.
  ∀ key, first.filter (·.1 = key) = second.filter (·.1 = key)

/-- Fields with different keys may be put in any order. -/
theorem sameFields_of_perm {first second : List (String × Json)} (order : first.Perm second)
    (once : (first.map (·.1)).Nodup) : SameFields first second := by
  intro key
  -- The fields with one key are the same on both sides, up to their order.
  have alike : (first.filter (·.1 = key)).Perm (second.filter (·.1 = key)) := order.filter _
  -- At most one field has the key, and a single field has one order only.
  have single : (first.filter (·.1 = key)).length ≤ 1 := by
    have count : (first.map (·.1)).count key ≤ 1 := List.nodup_iff_count.mp once key
    rw [List.count, List.countP_map, List.countP_eq_length_filter] at count
    exact count
  rcases shape : first.filter (·.1 = key) with _ | ⟨field, _ | ⟨other, more⟩⟩
  · rw [shape] at alike ⊢
    exact (List.nil_perm.mp alike).symm
  · rw [shape] at alike ⊢
    exact List.singleton_perm.mp alike
  · rw [shape] at single
    simp at single

/-- The first field with a key is the same in either order. -/
theorem SameFields.find?_eq {first second : List (String × Json)} (same : SameFields first second)
    (key : String) : first.find? (·.1 = key) = second.find? (·.1 = key) := by
  -- The first field with a key is the first of those with the key.
  rw [← List.head?_filter, ← List.head?_filter, same key]

/-- The order decides nothing about which fields there are. -/
theorem SameFields.mem_iff {first second : List (String × Json)} (same : SameFields first second)
    (field : String × Json) : field ∈ first ↔ field ∈ second := by
  -- A field stands among those with its own key.
  have selected (fields : List (String × Json)) :
      field ∈ fields ↔ field ∈ fields.filter (·.1 = field.1) := by simp
  rw [selected first, selected second, same]

/-- What is looked at in a value. -/
inductive Shape where
  /-- Nothing; a field of this shape is unknown. -/
  | unknown
  /-- Everything, as it stands. -/
  | whole
  /-- The items of an array. -/
  | array (items : Shape)
  /-- The fields of an object, each in the shape that belongs to its key. -/
  | object (under : String → Shape)

namespace Shape

/-- Anything but nothing is looked at. -/
def known : Shape → Bool
  | unknown => false
  | _ => true

/-- A value without the fields that are not looked at. -/
def strip : Shape → Json → Json
  | array items, .array values => .array (values.map items.strip)
  | object under, .object fields =>
    .object ((fields.filter fun field => (under field.1).known).map fun field =>
      (field.1, (under field.1).strip field.2))
  -- A value of another kind than expected is left as it is.
  | _, value => value

/-- Two values differ at most in the order of the fields of objects that are looked at. -/
def Reorders : Shape → Json → Json → Prop
  | array items, .array values, .array others => List.Forall₂ items.Reorders values others
  | object under, .object fields, .object others =>
    -- First what stands under the keys is reordered, and then the fields are.
    ∃ changed, List.Forall₂ (fun field other =>
        field.1 = other.1 ∧ (under field.1).Reorders field.2 other.2) fields changed ∧
      SameFields changed others
  | _, value, other => value = other

/-- A value is stripped of what is not looked at, and the rest is reordered. -/
def Restyles (shape : Shape) (value other : Json) : Prop := shape.Reorders (shape.strip value) other

variable {items : Shape} {under : String → Shape} {value other : Json}

/-- Nothing has to be reordered. -/
theorem reorders_refl (shape : Shape) (value : Json) : shape.Reorders value value := by
  -- Arrays and objects are gone through item by item, and anything else is left alone.
  induction shape generalizing value with
  | unknown => rfl
  | whole => rfl
  -- Every item may stay as it is, and so may the array.
  | array items ih =>
    cases value with
    | array values => exact List.forall₂_same.mpr fun item _ => ih item
    | _ => rfl
  | object under ih =>
    cases value with
    | object fields =>
      -- The fields are left as they are and in their order.
      refine ⟨fields, List.forall₂_same.mpr fun field _ => ⟨rfl, ih field.1 field.2⟩, ?_⟩
      exact fun _ => rfl
    | _ => rfl

/-- Two fields with different keys may change places. -/
theorem reorders_swap {key otherKey : String} {first refirst second resecond : Json}
    (different : key ≠ otherKey) (one : (under key).Reorders first refirst)
    (two : (under otherKey).Reorders second resecond) :
    (object under).Reorders (.object [(key, first), (otherKey, second)])
      (.object [(otherKey, resecond), (key, refirst)]) := by
  -- What stands under the keys changes first, and then the fields change places.
  refine ⟨[(key, refirst), (otherKey, resecond)], .cons ⟨rfl, one⟩ (.cons ⟨rfl, two⟩ .nil), ?_⟩
  exact sameFields_of_perm (List.Perm.swap _ _ _) (by simpa using different)

/-- An array is restyled item by item, and a value of another kind is not restyled at all. -/
theorem Restyles.array_cases (restyled : (array items).Restyles value other) :
    (∃ values others, value = .array values ∧ other = .array others ∧
      List.Forall₂ items.Restyles values others) ∨
    (value.items? = none ∧ other = value) := by
  -- Only an array has items; any other value is left as it is.
  cases value with
  | array values =>
    cases other with
    | array others =>
      have inside : List.Forall₂ items.Reorders (values.map items.strip) others := restyled
      rw [List.forall₂_map_left_iff] at inside
      exact Or.inl ⟨values, others, rfl, rfl, inside⟩
    | _ => cases restyled
  | _ =>
    refine Or.inr ⟨rfl, ?_⟩
    cases restyled
    rfl

/-- An object stays an object; every field of the result comes from one with the same key. -/
theorem Restyles.object_cases (restyled : (object under).Restyles value other) :
    (∃ fields changed others, value = .object fields ∧ other = .object others ∧
      List.Forall₂ (fun field other => field.1 = other.1 ∧
        (under field.1).Restyles field.2 other.2)
        (fields.filter fun field => (under field.1).known) changed ∧
      SameFields changed others) ∨
    ((∀ key, value.field? key = none) ∧ other = value) := by
  -- Only an object has fields; any other value is left as it is.
  cases value with
  | object fields =>
    cases other with
    | object others =>
      obtain ⟨changed, inside, order⟩ := restyled
      rw [List.forall₂_map_left_iff] at inside
      exact Or.inl ⟨fields, changed, others, rfl, rfl, inside, order⟩
    | _ => cases restyled
  | _ =>
    refine Or.inr ⟨fun _ => rfl, ?_⟩
    cases restyled
    rfl

/-- Lists of fields that match one by one match where a key is looked up. -/
theorem rel_find? {related : String × Json → String × Json → Prop}
    {fields others : List (String × Json)} (key : String)
    (all : List.Forall₂ (fun field other => field.1 = other.1 ∧ related field other)
      fields others) :
    Option.Rel related (fields.find? (·.1 = key)) (others.find? (·.1 = key)) := by
  induction all with
  | nil => exact .none
  | @cons field other _ _ first _ ih =>
    -- Two fields that match have the same key, so both are found or neither.
    obtain ⟨same, matching⟩ := first
    by_cases here : field.1 = key
    · simpa [here, ← same] using matching
    · simpa [here, ← same] using ih

/-- Restyling an object restyles what stands under each known key, and it loses none of it. -/
theorem Restyles.field? (restyled : (object under).Restyles value other) {key : String}
    {shape : Shape} (here : under key = shape) (known : shape.known = true) :
    Option.Rel shape.Restyles (value.field? key) (other.field? key) := by
  subst here
  rcases restyled.object_cases with
    ⟨fields, changed, others, rfl, rfl, inside, order⟩ | ⟨nothing, rfl⟩
  · -- Among the known fields the same one is found as among all.
    have found : (fields.filter fun field => (under field.1).known).find? (·.1 = key) =
        fields.find? (·.1 = key) := by
      rw [List.find?_filter]
      congr 1
      funext field
      by_cases here : field.1 = key
      · simp [here, known]
      · simp [here]
    have matched := rel_find? key inside
    rw [found, order.find?_eq] at matched
    -- What was found in a field of that key has the shape of the key.
    rw [Json.field?, Json.field?]
    generalize others.find? (·.1 = key) = second at matched ⊢
    cases first : fields.find? (·.1 = key) with
    | none =>
      rw [first] at matched
      cases matched
      exact .none
    | some field =>
      rw [first] at matched
      have here : field.1 = key := by simpa using List.find?_some first
      cases matched with
      | some restyles => exact .some (here ▸ restyles)
  · -- There is no field with the key on either side.
    rw [nothing]
    exact .none

end Shape

/-- Items that nest no deeper one by one nest no deeper together. -/
theorem nestingAmong_le_of_forall₂ {items others : List Json}
    (all : List.Forall₂ (fun item other => other.nesting ≤ item.nesting) items others) :
    nestingAmong others ≤ nestingAmong items := by
  -- The nesting of several items is that of the deepest one.
  induction all with
  | nil => exact Nat.le_refl _
  | cons first _ ih =>
    rw [nestingAmong, nestingAmong]
    omega

/-- Fields nest no deeper than others if each of them finds one that nests as deep. -/
theorem nestingUnder_le {fields others : List (String × Json)}
    (each : ∀ other ∈ others, ∃ field ∈ fields, other.2.nesting ≤ field.2.nesting) :
    nestingUnder others ≤ nestingUnder fields := by
  induction others with
  | nil => exact Nat.zero_le _
  | cons head rest ih =>
    -- The first field finds its match, and the others have been dealt with.
    obtain ⟨field, member, bound⟩ := each head List.mem_cons_self
    have deepest := nesting_le_nestingUnder member
    have later := ih fun other member => each other (List.mem_cons_of_mem _ member)
    rw [nestingUnder]
    omega

/-- Restyling never makes a value nest deeper. -/
theorem Shape.Restyles.nesting_le {shape : Shape} {value other : Json}
    (restyled : shape.Restyles value other) : other.nesting ≤ value.nesting := by
  -- A list nests one deeper than its deepest item, so the bound goes up level by level.
  induction shape generalizing value other with
  -- Nothing changes below a shape that is left alone.
  | unknown =>
    cases restyled
    exact Nat.le_refl _
  | whole =>
    cases restyled
    exact Nat.le_refl _
  | array items ih =>
    rcases restyled.array_cases with ⟨values, others, rfl, rfl, inside⟩ | ⟨-, rfl⟩
    · have bound := nestingAmong_le_of_forall₂ (inside.imp fun _ _ => ih)
      -- Both arrays nest one deeper than their items.
      rw [nesting, nesting]
      omega
    · exact Nat.le_refl _
  | object under ih =>
    rcases restyled.object_cases with ⟨fields, changed, others, rfl, rfl, inside, order⟩ | ⟨-, rfl⟩
    · have bound : nestingUnder others ≤ nestingUnder fields := by
        refine nestingUnder_le ?_
        intro other member
        -- The field comes from a known one, which has lost nothing but depth.
        obtain ⟨index, within, rfl⟩ := List.mem_iff_getElem.mp ((order.mem_iff other).mpr member)
        have within' : index < (fields.filter fun field => (under field.1).known).length :=
          inside.length_eq ▸ within
        have restyles := ((List.forall₂_iff_get.mp inside).2 index within' within).2
        exact ⟨_, (List.mem_filter.mp (List.getElem_mem within')).1, ih _ restyles⟩
      -- Both objects nest one deeper than their fields.
      rw [nesting, nesting]
      omega
    · exact Nat.le_refl _

end Flowprint.Json
