import Flowprint.Json.Reader
import Mathlib.Data.List.Basic

/-!
A value that was read holds integers of its text only, and each of them is short enough to quote.

A text with a number beyond all doubles is refused as a whole, so no integer has 310 digits.
-/

namespace Flowprint.Json

mutual

/-- The integers that stand anywhere in a value. -/
def integers : Json → List Int
  | .integer value => [value]
  | .array items => integersAmong items
  | .object fields => integersUnder fields
  | _ => []

/-- The integers that stand anywhere in some values. -/
def integersAmong : List Json → List Int
  | [] => []
  | item :: rest => integers item ++ integersAmong rest

/-- The integers that stand anywhere under some keys. -/
def integersUnder : List (String × Json) → List Int
  | [] => []
  | (_, value) :: rest => integers value ++ integersUnder rest

end

/-- The number of digits of an integer in base ten, without its sign. -/
def digitCount (value : Int) : Nat := (Nat.toDigits 10 value.natAbs).length

/-- A value can be quoted unless an integer inside it has more than 4300 digits. -/
def Quotable (value : Json) : Prop := ∀ integer ∈ value.integers, digitCount integer ≤ 4300

/-- The integers in some values are those of each of them, one after the other. -/
theorem integersAmong_eq (items : List Json) : integersAmong items = items.flatMap integers := by
  induction items with
  -- Without values there are no integers.
  | nil => rfl
  | cons item rest ih => rw [integersAmong, ih, List.flatMap_cons]

variable {P : Int → Prop}

/-- What holds of the integers of some fields and of a value holds after the value is put there. -/
theorem forall_integers_putField {key : String} {value : Json} {fields : List (String × Json)}
    (new : ∀ integer ∈ value.integers, P integer)
    (old : ∀ integer ∈ integersUnder fields, P integer) :
    ∀ integer ∈ integersUnder (putField key value fields), P integer := by
  induction fields with
  | nil =>
    -- The key is new, so its value is all that there is.
    simpa [putField, integersUnder] using new
  | cons field rest ih =>
    rw [integersUnder.eq_def, List.forall_mem_append] at old
    rw [putField]
    split
    · -- The value takes the place of the one before, whose integers are gone.
      exact List.forall_mem_append.mpr ⟨new, old.2⟩
    · -- The key comes later, and the field in front of it stays.
      exact List.forall_mem_append.mpr ⟨old.1, ih old.2⟩

/-! A reading passes on the integers that it has met, and it makes up none. -/

/-- The integer that a token writes, if it writes one. -/
def Token.integers : Token → List Int
  | .number (.integer value) => [value]
  | _ => []

/-- The integers of an open container. -/
def Frame.integers : Frame → List Int
  | .array items => integersAmong items
  | .object fields _ => integersUnder fields

/-- The integers that are kept until the next token decides where they belong. -/
def Awaited.integers : Awaited → List Int
  | .key fields => integersUnder fields
  | .colon fields _ => integersUnder fields
  | .after finished => finished.integers
  | _ => []

namespace Reader

/-- All integers that a reading has met have some property. -/
structure Keeps (P : Int → Prop) (reader : Reader) : Prop where
  /-- Those whose place is still open. -/
  awaited : ∀ integer ∈ reader.awaited.integers, P integer
  /-- Those in the open containers. -/
  frames : ∀ frame ∈ reader.frames, ∀ integer ∈ frame.integers, P integer

variable {depth : Nat} {reader next : Reader} {frames : List Frame} {token : Token}

/-- A value that begins brings in the integer of its token. -/
theorem keeps_of_begin? (new : ∀ integer ∈ token.integers, P integer)
    (old : ∀ frame ∈ frames, ∀ integer ∈ frame.integers, P integer)
    (begun : begin? depth frames token = some next) : next.Keeps P := by
  -- A container begins empty, and a scalar is a whole value.
  cases token with
  | openArray =>
    obtain ⟨-, opened⟩ := Option.ite_none_right_eq_some.mp begun
    obtain rfl := Option.some.inj opened
    exact ⟨by simp [Awaited.integers], List.forall_mem_cons.mpr
      ⟨by simp [Frame.integers, integersAmong], old⟩⟩
  | openObject =>
    obtain ⟨-, opened⟩ := Option.ite_none_right_eq_some.mp begun
    obtain rfl := Option.some.inj opened
    exact ⟨by simp [Awaited.integers], old⟩
  | number numeral =>
    cases numeral with
    | integer value =>
      obtain rfl := Option.some.inj begun
      exact ⟨by simpa [Awaited.integers, Json.integers, Token.integers] using new, old⟩
    | decimal value =>
      obtain rfl := Option.some.inj begun
      exact ⟨by simp [Awaited.integers, Json.integers], old⟩
  | null | bool _ | string _ =>
    obtain rfl := Option.some.inj begun
    exact ⟨by simp [Awaited.integers, Json.integers], old⟩
  | _ => cases begun

/-- A finished value goes where its container is, with all of its integers. -/
theorem keeps_of_continue? {value : Json} (new : ∀ integer ∈ value.integers, P integer)
    (old : ∀ frame ∈ frames, ∀ integer ∈ frame.integers, P integer)
    (continued : continue? frames value token = some next) : next.Keeps P := by
  unfold continue? at continued
  split at continued
  · -- The value is one more item of an array that goes on.
    obtain rfl := Option.some.inj continued
    obtain ⟨items, outer⟩ := List.forall_mem_cons.mp old
    refine ⟨by simp [Awaited.integers], List.forall_mem_cons.mpr ⟨?_, outer⟩⟩
    exact List.forall_mem_append.mpr ⟨new, items⟩
  · -- The value is the last item, and the array is finished.
    obtain rfl := Option.some.inj continued
    obtain ⟨items, outer⟩ := List.forall_mem_cons.mp old
    refine ⟨?_, outer⟩
    simp only [Awaited.integers, Json.integers, Frame.integers, integersAmong_eq] at items ⊢
    intro integer member
    obtain ⟨item, among, inside⟩ := List.mem_flatMap.mp member
    rcases List.mem_cons.mp (List.mem_reverse.mp among) with rfl | earlier
    · exact new integer inside
    · exact items integer (List.mem_flatMap.mpr ⟨item, earlier, inside⟩)
  · -- The value stands under its key in an object that goes on.
    obtain rfl := Option.some.inj continued
    obtain ⟨fields, outer⟩ := List.forall_mem_cons.mp old
    exact ⟨forall_integers_putField new fields, outer⟩
  · -- The value stands under the last key, and the object is finished.
    obtain rfl := Option.some.inj continued
    obtain ⟨fields, outer⟩ := List.forall_mem_cons.mp old
    exact ⟨forall_integers_putField new fields, outer⟩
  · cases continued

/-- One token brings in no integer but its own. -/
theorem Keeps.step (keeps : reader.Keeps P) (new : ∀ integer ∈ token.integers, P integer)
    (stepped : step depth reader token = some next) : next.Keeps P := by
  obtain ⟨awaited, frames⟩ := keeps
  unfold Reader.step at stepped
  split at stepped
  · exact keeps_of_begin? new frames stepped
  · -- An array is finished before its first item, and its frame goes with it.
    obtain rfl := Option.some.inj stepped
    refine ⟨by simp [Awaited.integers, Json.integers, integersAmong], ?_⟩
    intro frame member
    exact frames frame (List.mem_of_mem_tail member)
  · exact keeps_of_begin? new frames stepped
  · -- An object is finished before its first key.
    obtain rfl := Option.some.inj stepped
    exact ⟨by simp [Awaited.integers, Json.integers, integersUnder], frames⟩
  · -- The first key comes with no fields in front of it.
    obtain rfl := Option.some.inj stepped
    exact ⟨by simp [Awaited.integers, integersUnder], frames⟩
  · -- A further key leaves the fields in front of it as they are.
    next fields key found =>
    obtain rfl := Option.some.inj stepped
    rw [found] at awaited
    exact ⟨awaited, frames⟩
  · -- Behind the colon the fields wait in a frame for the value to come.
    next fields key found =>
    obtain rfl := Option.some.inj stepped
    rw [found] at awaited
    exact ⟨by simp [Awaited.integers], List.forall_mem_cons.mpr ⟨awaited, frames⟩⟩
  · next value found =>
    rw [found] at awaited
    exact keeps_of_continue? awaited frames stepped
  · cases stepped

/-- A whole run brings in no integers but those of its tokens. -/
theorem Keeps.run {tokens : List Token} (keeps : reader.Keeps P)
    (new : ∀ token ∈ tokens, ∀ integer ∈ token.integers, P integer)
    (ran : tokens.foldlM (Reader.step depth) reader = some next) : next.Keeps P := by
  -- The induction is on the tokens; each of them keeps what was reached before it.
  induction tokens generalizing reader with
  | nil =>
    obtain rfl := Option.some.inj ran
    exact keeps
  | cons token rest ih =>
    rw [List.forall_mem_cons] at new
    obtain ⟨middle, stepped, ran⟩ := Option.bind_eq_some_iff.mp ran
    exact ih (keeps.step new.1 stepped) new.2 ran

end Reader

/-- A value that is put together from tokens holds no integers but theirs. -/
theorem forall_integers_of_ofTokens? {depth : Nat} {tokens : List Token} {value : Json}
    (new : ∀ token ∈ tokens, ∀ integer ∈ token.integers, P integer)
    (read : ofTokens? depth tokens = some value) : ∀ integer ∈ value.integers, P integer := by
  obtain ⟨done, ran, finished⟩ := Option.bind_eq_some_iff.mp read
  -- Before the first token nothing has been met.
  have start : Reader.start.Keeps P :=
    ⟨by simp [Reader.start, Awaited.integers], by simp [Reader.start]⟩
  have keeps := (start.run new ran).awaited
  rw [Reader.finish] at finished
  split at finished
  · next value' _ awaited =>
    obtain rfl := Option.some.inj finished
    simpa [awaited, Awaited.integers] using keeps
  · cases finished

/-- A number below the overflow has 309 digits at most. -/
theorem digitCount_le_of_finite {value : Int} (finite : (Numeral.integer value).finite) :
    digitCount value ≤ 309 := by
  rw [Numeral.finite, Decimal.belowOverflow, Decimal.order] at finite
  by_cases zero : value.natAbs = 0
  · -- Zero has one digit, although it is below every power of ten.
    rw [digitCount, zero]
    decide
  · -- Any other number of 310 digits or more is refused for its order alone.
    by_contra long
    rw [digitCount] at long
    rw [if_neg (by omega), if_pos (by omega)] at finite
    cases finite

/-- Every integer of a value that was read has 309 digits at most. -/
theorem digitCount_le_of_read? {text : String} {value : Json} (read : read? text = some value) :
    ∀ integer ∈ value.integers, digitCount integer ≤ 309 := by
  -- The text was scanned, its tokens were acceptable, and they made up the value.
  obtain ⟨tokens, scanned, accepted⟩ := Option.bind_eq_some_iff.mp read
  obtain ⟨acceptable, built⟩ := Option.ite_none_right_eq_some.mp accepted
  refine forall_integers_of_ofTokens? ?_ built
  -- The text was accepted token by token, also where a value was dropped.
  intro token member
  have finite := List.all_eq_true.mp acceptable token member
  cases token with
  | number numeral =>
    cases numeral with
    | integer value => simpa [Token.integers] using digitCount_le_of_finite finite
    | decimal value => simp [Token.integers]
  | _ => simp [Token.integers]

/-- Whatever was read can be quoted, as far as its integers go. -/
theorem quotable_of_read? {text : String} {value : Json} (read : read? text = some value) :
    value.Quotable := by
  -- A number that is finite as a decimal has far fewer digits than are allowed.
  intro integer member
  have short := digitCount_le_of_read? read integer member
  omega

/-- The same holds of the bytes of a file. -/
theorem quotable_of_readBytes? {bytes : ByteArray} {value : Json}
    (read : readBytes? bytes = some value) : value.Quotable := by
  -- The bytes were read as a text first.
  obtain ⟨text, -, read⟩ := Option.bind_eq_some_iff.mp read
  exact quotable_of_read? read

end Flowprint.Json
