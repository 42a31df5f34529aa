import Flowprint.Json.Reader
import Flowprint.Proofs.Json.Tokens

/-! A value that can be written, without decimals and repeated keys, reads back from its text. -/

namespace Flowprint.Json

/-- A key that is not there yet comes last. -/
theorem putField_of_notMem {key : String} {fields : List (String × Json)}
    (absent : key ∉ fields.map (·.1)) (value : Json) :
    putField key value fields = fields ++ [(key, value)] := by
  -- The search for the key goes past every field.
  induction fields with
  | nil => rfl
  | cons field rest ih =>
    rw [List.map_cons, List.mem_cons, not_or] at absent
    rw [putField, if_neg (Ne.symm absent.1), ih absent.2, List.cons_append]

/-- An integer that can be written is finite as a double. -/
theorem finite_of_fits {value : Int} (fits : Fits value) :
    Numeral.finite (.integer value) = true := by
  -- It has at most twenty digits.
  have short : (Nat.toDigits 10 value.natAbs).length ≤ 20 := by
    rw [Nat.length_toDigits_le_iff (by decide) (by decide)]
    obtain ⟨low, high⟩ := fits
    omega
  have small : Decimal.order value.natAbs 0 ≤ 308 := by
    unfold Decimal.order
    omega
  simp [Numeral.finite, Decimal.belowOverflow, small]

mutual

/-- All tokens of a value that can be written are acceptable. -/
theorem acceptable_tokens (value : Json) {above : Nat} (exact : Exact value)
    (writable : obstacle? above value = none) : (tokens value).all Token.acceptable = true := by
  -- Only numbers can be refused, and every number in the value is an integer that fits.
  match value with
  | .null => rfl
  | .bool _ => rfl
  | .integer whole =>
    simpa [tokens, Token.acceptable] using finite_of_fits (obstacle?_integer.mp writable)
  | .string _ => rfl
  | .array [] => rfl
  | .array (first :: items) =>
    obtain ⟨-, writable⟩ := obstacle?_array.mp writable
    obtain ⟨firstWritable, itemsWritable⟩ := obstacleAmong?_cons.mp writable
    have front := acceptable_tokens first exact.1 firstWritable
    have back := acceptable_itemTokens items exact.2 itemsWritable
    simp only [tokens, List.all_cons, List.all_append, front, back]
    rfl
  | .object [] => rfl
  | .object ((key, first) :: fields) =>
    obtain ⟨-, writable⟩ := obstacle?_object.mp writable
    obtain ⟨firstWritable, fieldsWritable⟩ := obstacleUnder?_cons.mp writable
    have front := acceptable_tokens first exact.2.1 firstWritable
    have back := acceptable_fieldTokens fields exact.2.2 fieldsWritable
    simp only [tokens, List.all_cons, List.all_append, front, back]
    rfl

/-- All tokens of items that can be written are acceptable. -/
theorem acceptable_itemTokens (items : List Json) {above : Nat} (exact : ExactAmong items)
    (writable : obstacleAmong? above items = none) :
    (itemTokens items).all Token.acceptable = true := by
  match items with
  | [] => rfl
  -- The token of the comma is always acceptable.
  | item :: rest =>
    obtain ⟨itemWritable, restWritable⟩ := obstacleAmong?_cons.mp writable
    have front := acceptable_tokens item exact.1 itemWritable
    have back := acceptable_itemTokens rest exact.2 restWritable
    simp only [itemTokens, List.all_cons, List.all_append, front, back]
    rfl

/-- All tokens of fields that can be written are acceptable. -/
theorem acceptable_fieldTokens (fields : List (String × Json)) {above : Nat}
    (exact : ExactUnder fields) (writable : obstacleUnder? above fields = none) :
    (fieldTokens fields).all Token.acceptable = true := by
  match fields with
  | [] => rfl
  -- The tokens of a field are its key, a colon and those of its value, behind a comma.
  | (key, value) :: rest =>
    obtain ⟨valueWritable, restWritable⟩ := obstacleUnder?_cons.mp writable
    have front := acceptable_tokens value exact.1 valueWritable
    have back := acceptable_fieldTokens rest exact.2 restWritable
    simp only [fieldTokens, List.all_cons, List.all_append, front, back]
    rfl

end

namespace Reader

variable {depth : Nat} {frames : List Frame} {rest : List Token}

/-- A value may stand wherever the first item of an array is awaited. -/
theorem foldlM_firstItem (value : Json) :
    (tokens value ++ rest).foldlM (step depth) ⟨frames, .firstItem⟩ =
      (tokens value ++ rest).foldlM (step depth) ⟨frames, .value⟩ := by
  -- No value begins with a closing bracket.
  match value with
  | .null => rfl
  | .bool _ => rfl
  | .integer _ => rfl
  | .decimal _ => rfl
  | .string _ => rfl
  | .array [] => rfl
  | .array (_ :: _) => rfl
  | .object [] => rfl
  | .object ((_, _) :: _) => rfl

/-- An array or an object may begin where its depth leaves room for it. -/
theorem room_of_lt {above : Nat} (within : maxWrittenDepth ≤ depth)
    (room : above < maxWrittenDepth) : above < depth := Nat.lt_of_lt_of_le room within

mutual

/--
The tokens of a value take the machine from before the value to behind it.

The containers around the value count for the depth just as they do in writing.
-/
theorem foldlM_tokens (value : Json) (frames : List Frame) {rest : List Token}
    (exact : Exact value) (writable : obstacle? frames.length value = none)
    (within : maxWrittenDepth ≤ depth) :
    (tokens value ++ rest).foldlM (step depth) ⟨frames, .value⟩ =
      rest.foldlM (step depth) ⟨frames, .after value⟩ := by
  match value with
  | .null => rfl
  | .bool _ => rfl
  | .integer _ => rfl
  | .string _ => rfl
  | .array [] =>
    have room := room_of_lt within (obstacle?_array.mp writable).1
    simp [tokens, step, begin?, room]
  | .array (first :: items) =>
    -- The opening bracket puts a frame around the items, which the closing one takes away.
    obtain ⟨room, writable⟩ := obstacle?_array.mp writable
    obtain ⟨firstWritable, itemsWritable⟩ := obstacleAmong?_cons.mp writable
    have opened : step depth ⟨frames, .value⟩ .openArray =
        some ⟨.array [] :: frames, .firstItem⟩ := by
      simp [step, begin?, room_of_lt within room]
    rw [tokens, List.cons_append, List.append_assoc, List.foldlM_cons, opened,
      Option.bind_eq_bind, Option.bind_some, foldlM_firstItem,
      foldlM_tokens first (.array [] :: frames) exact.1 firstWritable within, List.append_assoc,
      List.singleton_append, foldlM_itemTokens items first [] exact.2 itemsWritable within]
    rfl
  | .object [] =>
    -- An empty container needs room as any other does.
    have room := room_of_lt within (obstacle?_object.mp writable).1
    simp [tokens, step, begin?, room]
  | .object ((key, first) :: fields) =>
    -- Each key puts the frame of the object around its value anew.
    obtain ⟨room, writable⟩ := obstacle?_object.mp writable
    obtain ⟨firstWritable, fieldsWritable⟩ := obstacleUnder?_cons.mp writable
    have opened : step depth ⟨frames, .value⟩ .openObject = some ⟨frames, .firstKey⟩ := by
      simp [step, begin?, room_of_lt within room]
    have named : step depth ⟨frames, .firstKey⟩ (.string key) = some ⟨frames, .colon [] key⟩ := rfl
    have entered : step depth ⟨frames, .colon [] key⟩ .colon =
        some ⟨.object [] key :: frames, .value⟩ := rfl
    simp only [tokens, List.cons_append, List.append_assoc, List.foldlM_cons, opened, named,
      entered, Option.bind_eq_bind, Option.bind_some]
    rw [foldlM_tokens first (.object [] key :: frames) exact.2.1 firstWritable within,
      foldlM_fieldTokens fields key first [] exact.1 exact.2.2 fieldsWritable within]
    rfl

/-- The tokens of the further items take the machine from the first item behind the array. -/
theorem foldlM_itemTokens (items : List Json) (value : Json) (before : List Json)
    {outer : List Frame} {rest : List Token} (exact : ExactAmong items)
    (writable : obstacleAmong? (outer.length + 1) items = none)
    (within : maxWrittenDepth ≤ depth) :
    (itemTokens items ++ .closeArray :: rest).foldlM (step depth)
        ⟨.array before :: outer, .after value⟩ =
      rest.foldlM (step depth) ⟨outer, .after (.array (before.reverse ++ value :: items))⟩ := by
  match items with
  -- The closing bracket puts the last item into the frame and takes the frame away.
  | [] => simp [itemTokens, step, continue?]
  | item :: more =>
    -- The comma puts the finished item into the frame.
    obtain ⟨itemWritable, moreWritable⟩ := obstacleAmong?_cons.mp writable
    have next : step depth ⟨.array before :: outer, .after value⟩ .comma =
        some ⟨.array (value :: before) :: outer, .value⟩ := rfl
    rw [itemTokens, List.cons_append, List.append_assoc, List.foldlM_cons, next,
      Option.bind_eq_bind, Option.bind_some,
      foldlM_tokens item (.array (value :: before) :: outer) exact.1 itemWritable within,
      foldlM_itemTokens more item (value :: before) exact.2 moreWritable within]
    simp

/-- The tokens of the further fields take the machine from the first field behind the object. -/
theorem foldlM_fieldTokens (fields : List (String × Json)) (key : String) (value : Json)
    (before : List (String × Json)) {outer : List Frame} {rest : List Token}
    (distinct : ((before ++ (key, value) :: fields).map (·.1)).Nodup)
    (exact : ExactUnder fields) (writable : obstacleUnder? (outer.length + 1) fields = none)
    (within : maxWrittenDepth ≤ depth) :
    (fieldTokens fields ++ .closeObject :: rest).foldlM (step depth)
        ⟨.object before key :: outer, .after value⟩ =
      rest.foldlM (step depth) ⟨outer, .after (.object (before ++ (key, value) :: fields))⟩ := by
  -- Keys are distinct, so each field is put behind the ones before it.
  have absent : key ∉ before.map (·.1) := by
    rw [List.map_append, List.nodup_append] at distinct
    exact fun present => distinct.2.2 key present key (by simp) rfl
  have put := putField_of_notMem absent value
  match fields with
  -- The closing brace puts the last field into the object.
  | [] => simp [fieldTokens, step, continue?, put]
  | (name, item) :: more =>
    obtain ⟨itemWritable, moreWritable⟩ := obstacleUnder?_cons.mp writable
    -- The comma puts the finished field behind those before it.
    have next : step depth ⟨.object before key :: outer, .after value⟩ .comma =
        some ⟨outer, .key (before ++ [(key, value)])⟩ := by
      simp [step, continue?, put]
    have named : step depth ⟨outer, .key (before ++ [(key, value)])⟩ (.string name) =
        some ⟨outer, .colon (before ++ [(key, value)]) name⟩ := rfl
    have entered : step depth ⟨outer, .colon (before ++ [(key, value)]) name⟩ .colon =
        some ⟨.object (before ++ [(key, value)]) name :: outer, .value⟩ := rfl
    -- From now on this field is one of those before.
    have shifted : before ++ (key, value) :: (name, item) :: more =
        before ++ [(key, value)] ++ (name, item) :: more := by simp
    rw [shifted] at distinct ⊢
    simp only [fieldTokens, List.cons_append, List.append_assoc, List.foldlM_cons, next, named,
      entered, Option.bind_eq_bind, Option.bind_some]
    rw [foldlM_tokens item (.object (before ++ [(key, value)]) name :: outer) exact.1 itemWritable
        within,
      foldlM_fieldTokens more name item _ distinct exact.2 moreWritable within]
    simp

end

end Reader

/-- A value that can be written, without decimals and repeated keys, reads back from its text. -/
theorem read?_text {value : Json} {written : String} (exact : Exact value)
    (writes : value.text = .ok written) : read? written = some value := by
  -- The text scans as the tokens of the value, and these take the machine to the value.
  have writable : value.obstacle? 0 = none := by
    cases found : value.obstacle? 0 with
    | none => rfl
    | some fault => simp [text, found] at writes
  have form : written = String.ofList (value.write 0) := by
    simpa [text, writable, eq_comm] using writes
  have folded : (value.tokens ++ []).foldlM (Reader.step maxDepth) ⟨[], .value⟩ =
      some ⟨[], .after value⟩ :=
    Reader.foldlM_tokens value [] exact writable (show maxWrittenDepth ≤ maxDepth by decide)
  rw [List.append_nil] at folded
  -- No token is refused, so the machine decides, and it ends behind the value.
  have acceptable := acceptable_tokens value exact writable
  simp only [List.all_eq_true] at acceptable
  simpa [read?, form, scan?_write exact, ofTokens?, Reader.start, folded, Reader.finish] using
    acceptable

/-- The bytes of a text are read as that text. -/
theorem readBytes?_toUTF8 (text : String) : readBytes? text.toUTF8 = read? text := by
  -- The bytes of a text are UTF-8, and they stand for that text.
  have decoded : String.fromUTF8? text.toUTF8 = some text := dif_pos text.isValidUTF8
  rw [readBytes?, decoded]
  rfl

/-- The bytes of the text of a value read back as well. -/
theorem readBytes?_text {value : Json} {written : String} (exact : Exact value)
    (writes : value.text = .ok written) : readBytes? written.toUTF8 = some value := by
  -- Text becomes bytes and text again without a loss.
  rw [readBytes?_toUTF8]
  exact read?_text exact writes

end Flowprint.Json
