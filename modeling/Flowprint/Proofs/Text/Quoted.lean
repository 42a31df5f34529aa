import Flowprint.Proofs.Json.Escape
import Flowprint.Text.Quoted
import Mathlib.Algebra.Group.Nat.Defs

/-!
A quoted instruction is read back as the instruction, whatever its texts hold.

A reader that knows both quotes and all escapes tells the texts from the marks between them, so no
text can pass for a separator or for the end of the list.
-/

namespace Flowprint

namespace Text

/-! A reader goes through a text character by character. -/

/-- What a text with quotations is made of. -/
inductive Piece where
  /-- A character outside of all quotes. -/
  | mark (c : Char)
  /-- A text between quotes. -/
  | text (content : List Char)
  deriving DecidableEq

/-- Where a reader stands. -/
inductive Position where
  /-- Outside of all quotes. -/
  | outside
  /-- Behind a quote and some characters of the text that it opened. -/
  | inside (quote : Char) (taken : List Char)
  /-- The same, and behind a backslash. -/
  | escape (quote : Char) (taken : List Char)
  /-- The same, and behind some digits, with one digit to come and so many more behind that one. -/
  | digits (quote : Char) (taken : List Char) (more value : Nat)
  deriving DecidableEq

/-- What a reader has read, and where it stands. -/
structure Reading where
  /-- The pieces that are complete. -/
  pieces : List Piece
  /-- The place behind them. -/
  position : Position

/-- The character with a code, if there is one. -/
def character? (code : Nat) : Option Char :=
  if code.isValidChar then some (Char.ofNat code) else none

/-- The character behind a backslash and one letter. -/
def letterEscape? (letter : Char) : Option Char :=
  if letter = '\\' ∨ letter = '\x27' ∨ letter = '"' then some letter
  else if letter = 'n' then some '\n'
  else if letter = 'r' then some '\r'
  else if letter = 't' then some '\t'
  else none

namespace Reading

/-- Reads one character behind a backslash. -/
def escaped (quote : Char) (taken : List Char) (c : Char) : Option Position :=
  -- A letter may announce two digits, four or eight.
  if c = 'x' then some (.digits quote taken 1 0)
  else if c = 'u' then some (.digits quote taken 3 0)
  else if c = 'U' then some (.digits quote taken 7 0)
  else (letterEscape? c).map fun meant => .inside quote (taken ++ [meant])

/-- Reads one character. -/
def step (reading : Reading) (c : Char) : Option Reading :=
  match reading.position with
  | .outside =>
    -- Either quote opens a text, and only the same quote closes it.
    if c = '\x27' ∨ c = '"' then some ⟨reading.pieces, .inside c []⟩
    else some ⟨reading.pieces ++ [.mark c], .outside⟩
  | .inside quote taken =>
    if c = quote then some ⟨reading.pieces ++ [.text taken], .outside⟩
    else if c = '\\' then some ⟨reading.pieces, .escape quote taken⟩
    else if c = '\n' then none
    else some ⟨reading.pieces, .inside quote (taken ++ [c])⟩
  | .escape quote taken => (escaped quote taken c).map (⟨reading.pieces, ·⟩)
  | .digits quote taken more value => do
    let value := value * 16 + (← Json.hexValue? c)
    match more with
    | 0 => return ⟨reading.pieces, .inside quote (taken ++ [← character? value])⟩
    | more + 1 => return ⟨reading.pieces, .digits quote taken more value⟩

end Reading

/-- Some characters lead a reader from one state to another one. -/
def Reads (before : Reading) (text : List Char) (after : Reading) : Prop :=
  text.foldlM Reading.step before = some after

/-- The pieces of a text, in which no quote and no escape may be left open. -/
def pieces? (text : List Char) : Option (List Piece) := do
  let reading ← text.foldlM Reading.step ⟨[], .outside⟩
  if reading.position = .outside then some reading.pieces else none

/-! Every character is read as it was quoted. -/

section Reads

variable {before between after : Reading} {first second : List Char}

/-- Nothing leads a reader nowhere. -/
theorem Reads.nil (reading : Reading) : Reads reading [] reading := rfl

/-- A reader goes on behind what it has read. -/
theorem Reads.append (one : Reads before first between) (other : Reads between second after) :
    Reads before (first ++ second) after := by
  -- The second text is read from the state that the first one leaves.
  unfold Reads at *
  rw [List.foldlM_append, one]
  exact other

/-- A reader reads one character and goes on behind it. -/
theorem Reads.cons {c : Char} (one : before.step c = some between)
    (other : Reads between second after) : Reads before (c :: second) after := by
  -- A character is a text of one.
  unfold Reads at *
  rw [List.foldlM_cons, one]
  exact other

end Reads

/-- The quote of a quotation is one of two. -/
theorem quoteFor_cases (text : List Char) : quoteFor text = '\x27' ∨ quoteFor text = '"' := by
  -- Double quotes stand around a text that has single quotes and no double ones.
  unfold quoteFor
  split
  · exact Or.inr rfl
  · exact Or.inl rfl

/-- A character is quoted by a letter or by its code, or it stands for itself. -/
theorem quoteChar_cases {quote : Char} (known : quote = '\x27' ∨ quote = '"') (c : Char) :
    (∃ letter, letterEscape? letter = some c ∧ letter ≠ 'x' ∧ letter ≠ 'u' ∧ letter ≠ 'U' ∧
      quoteChar quote c = ['\\', letter]) ∨
    (c ≠ quote ∧ c ≠ '\\' ∧ c ≠ '\n' ∧ quoteChar quote c = [c]) ∨
    quoteChar quote c = codeEscape c.toNat := by
  unfold quoteChar
  split_ifs with special line carriage tab printable
  · -- The quote and the backslash are their own letters.
    refine Or.inl ⟨c, ?_, ?_⟩
    · rw [letterEscape?, if_pos]
      rcases special with rfl | rfl
      · exact Or.inr known
      · exact Or.inl rfl
    · rcases special with rfl | rfl
      · rcases known with rfl | rfl <;> decide
      · decide
  · -- A line break, a return and a tab have letters of their own.
    exact Or.inl ⟨'n', by subst line; decide, by decide, by decide, by decide, rfl⟩
  · exact Or.inl ⟨'r', by subst carriage; decide, by decide, by decide, by decide, rfl⟩
  · exact Or.inl ⟨'t', by subst tab; decide, by decide, by decide, by decide, rfl⟩
  · -- What remains is no quote and no backslash.
    rw [not_or] at special
    exact Or.inr (Or.inl ⟨special.1, special.2, line, rfl⟩)
  · exact Or.inr (Or.inr rfl)

section Quotation

variable {quote : Char} {taken : List Char} {done : List Piece}

/-- The last digit of a number is read as its last place. -/
theorem hexValue?_lastDigit (code : Nat) :
    Json.hexValue? (Nat.digitChar (code % 16)) = some (code % 16) :=
  -- A remainder is small enough to be the value of a digit.
  Json.hexValue?_hexDigit (Nat.mod_lt _ (by decide))

/-- Some digits are read as the last places of the number that they were written for. -/
theorem reads_hexDigits (code places more value : Nat) :
    Reads ⟨done, .digits quote taken (more + places) value⟩ (hexDigits code places)
      ⟨done, .digits quote taken more (value * 16 ^ places + code % 16 ^ places)⟩ := by
  -- The last digit is the last place, and the digits in front of it are those of the quotient.
  induction places generalizing code more with
  | zero =>
    -- No digits leave the number as it is.
    rw [Nat.pow_zero, Nat.mul_one, Nat.mod_one]
    exact Reads.nil _
  | succ places ih =>
    -- The digits in front are read with one more digit to come.
    have front := ih (code / 16) (more + 1)
    rw [Nat.add_right_comm] at front
    have total : (value * 16 ^ places + code / 16 % 16 ^ places) * 16 + code % 16 =
        value * 16 ^ (places + 1) + code % 16 ^ (places + 1) := by
      rw [Nat.pow_succ', Nat.mod_mul, Nat.add_mul, Nat.mul_left_comm, Nat.mul_comm 16]
      omega
    refine front.append (Reads.cons ?_ (Reads.nil _))
    simp [Reading.step, hexValue?_lastDigit, total]

/-- A code that fits into its digits is read as its character. -/
theorem reads_code {c : Char} (places : Nat) (fits : c.toNat < 16 ^ (places + 1)) :
    Reads ⟨done, .digits quote taken places 0⟩ (hexDigits c.toNat (places + 1))
      ⟨done, .inside quote (taken ++ [c])⟩ := by
  -- All digits but the last are read first; they make up the sixteenth part.
  have front : Reads ⟨done, .digits quote taken (0 + places) 0⟩
      (hexDigits (c.toNat / 16) places)
      ⟨done, .digits quote taken 0 (0 * 16 ^ places + c.toNat / 16 % 16 ^ places)⟩ :=
    reads_hexDigits (c.toNat / 16) places 0 0
  have quotient : c.toNat / 16 < 16 ^ places := by
    rw [Nat.pow_succ] at fits
    exact Nat.div_lt_of_lt_mul (by rwa [Nat.mul_comm])
  rw [Nat.zero_add, Nat.zero_mul, Nat.zero_add, Nat.mod_eq_of_lt quotient] at front
  -- The last digit completes the code.
  have whole : c.toNat / 16 * 16 + c.toNat % 16 = c.toNat := Nat.div_add_mod' _ _
  have valid : character? c.toNat = some c := by
    rw [character?, if_pos (show c.toNat.isValidChar from c.valid), Char.ofNat_toNat]
  refine front.append (Reads.cons ?_ (Reads.nil _))
  simp [Reading.step, hexValue?_lastDigit, whole, valid]

/-- Behind an opening quote, a quoted character is read as the character. -/
theorem reads_quoteChar (known : quote = '\x27' ∨ quote = '"') (c : Char) :
    Reads ⟨done, .inside quote taken⟩ (quoteChar quote c)
      ⟨done, .inside quote (taken ++ [c])⟩ := by
  -- The backslash is the same step for all escapes.
  have opens : Reading.step ⟨done, .inside quote taken⟩ '\\' =
      some ⟨done, .escape quote taken⟩ := by
    rcases known with rfl | rfl <;> rfl
  rcases quoteChar_cases known c with
    ⟨letter, meant, notX, notU, notLong, form⟩ | ⟨other, unescaped, inLine, form⟩ | form
  · -- Two characters, of which the second is looked up.
    rw [form]
    refine Reads.cons opens (Reads.cons ?_ (Reads.nil _))
    simp [Reading.step, Reading.escaped, meant, notX, notU, notLong]
  · -- The character is read as itself.
    rw [form]
    refine Reads.cons ?_ (Reads.nil _)
    simp [Reading.step, other, unescaped, inLine]
  · -- The letter behind the backslash announces as many digits as there are.
    have bound : c.toNat < 0x110000 := by
      rcases c.valid with low | ⟨-, high⟩
      · exact Nat.lt_trans low (by decide)
      · exact high
    rw [form, codeEscape]
    split_ifs with short middle
    · exact Reads.cons opens (Reads.cons rfl (reads_code 1 short))
    · exact Reads.cons opens (Reads.cons rfl (reads_code 3 middle))
    · have long : c.toNat < 16 ^ 8 := Nat.lt_trans bound (by decide)
      exact Reads.cons opens (Reads.cons rfl (reads_code 7 long))

/-- Behind an opening quote, quoted characters are read as the characters. -/
theorem reads_flatMap_quoteChar (known : quote = '\x27' ∨ quote = '"') (text : List Char) :
    Reads ⟨done, .inside quote taken⟩ (text.flatMap (quoteChar quote))
      ⟨done, .inside quote (taken ++ text)⟩ := by
  -- The characters read so far are kept in front.
  induction text generalizing taken with
  | nil =>
    rw [List.append_nil]
    exact Reads.nil _
  | cons c rest ih =>
    have later : Reads ⟨done, .inside quote (taken ++ [c])⟩ (rest.flatMap (quoteChar quote))
        ⟨done, .inside quote (taken ++ [c] ++ rest)⟩ := ih
    rw [List.append_assoc, List.singleton_append] at later
    exact (reads_quoteChar known c).append later

/-- A quotation is read as the one text that it was made of. -/
theorem reads_quoteChars (done : List Piece) (text : List Char) :
    Reads ⟨done, .outside⟩ (quoteChars text) ⟨done ++ [.text text], .outside⟩ := by
  have known := quoteFor_cases text
  -- The quote at the beginning opens the text, and the same quote closes it.
  have opened : Reading.step ⟨done, .outside⟩ (quoteFor text) =
      some ⟨done, .inside (quoteFor text) []⟩ := if_pos known
  have closed : Reading.step ⟨done, .inside (quoteFor text) ([] ++ text)⟩ (quoteFor text) =
      some ⟨done ++ [.text text], .outside⟩ := if_pos rfl
  exact Reads.cons opened
    ((reads_flatMap_quoteChar known text).append (Reads.cons closed (Reads.nil _)))

/-- Characters that are no quotes are read as marks. -/
theorem reads_marks (done : List Piece) {marks : List Char} (single : '\x27' ∉ marks)
    (double : '"' ∉ marks) :
    Reads ⟨done, .outside⟩ marks ⟨done ++ marks.map .mark, .outside⟩ := by
  -- Each mark is a piece by itself, and the reader stays outside.
  induction marks generalizing done with
  | nil =>
    rw [List.map_nil, List.append_nil]
    exact Reads.nil _
  | cons c rest ih =>
    rw [List.mem_cons, not_or] at single double
    have mark : Reading.step ⟨done, .outside⟩ c = some ⟨done ++ [.mark c], .outside⟩ :=
      if_neg (not_or.mpr ⟨Ne.symm single.1, Ne.symm double.1⟩)
    have later := ih (done ++ [.mark c]) single.2 double.2
    rw [List.append_assoc, List.singleton_append] at later
    exact Reads.cons mark later

end Quotation

end Text

namespace Instruction

open Text

/-- The marks in front of the mnemonic of a quoted instruction. -/
def opening : List Char := "Instruction(".toList

/-- The marks between the mnemonic and the operands. -/
def middle : List Char := ", [".toList

/-- The pieces behind some marks, which have to be there. -/
def after? (marks : List Char) (pieces : List Piece) : Option (List Piece) :=
  if marks.map .mark <+: pieces then some (pieces.drop marks.length) else none

/-- The operands in front of the brackets that close a quoted instruction. -/
def operands? : List Piece → Option (List String)
  | [.mark ']', .mark ')'] => some []
  | [.text operand, .mark ']', .mark ')'] => some [String.ofList operand]
  | .text operand :: .mark ',' :: .mark ' ' :: rest =>
    (operands? rest).map (String.ofList operand :: ·)
  | _ => none

/-- The instruction that some pieces make up. -/
def ofPieces? (pieces : List Piece) : Option Instruction := do
  match ← after? opening pieces with
  | .text mnemonic :: rest =>
    return ⟨String.ofList mnemonic, ← operands? (← after? middle rest)⟩
  | _ => none

/-- Reads a quoted instruction. -/
def read? (text : String) : Option Instruction := (pieces? text.toList).bind ofPieces?

/-- The pieces behind the bracket that opens the list of operands. -/
def operandPieces : List String → List Piece
  | [] => [.mark ']', .mark ')']
  | [operand] => [.text operand.toList, .mark ']', .mark ')']
  | operand :: rest => .text operand.toList :: .mark ',' :: .mark ' ' :: operandPieces rest

/-- The pieces of a quoted instruction: its texts, with the marks of its form between them. -/
def pieces (instruction : Instruction) : List Piece :=
  opening.map .mark ++ .text instruction.mnemonic.toList ::
    (middle.map .mark ++ operandPieces instruction.operands)

/-- The pieces behind some marks are what stands behind them. -/
theorem after?_append (marks : List Char) (rest : List Piece) :
    after? marks (marks.map .mark ++ rest) = some rest := by
  -- The marks are the front of the pieces, and they are taken off.
  rw [after?, if_pos (List.prefix_append _ _), List.drop_left' (List.length_map _)]

/-- The operands are read from their pieces. -/
theorem operands?_operandPieces (operands : List String) :
    operands? (operandPieces operands) = some operands := by
  -- Each operand is one piece, with two marks behind it unless it is the last one.
  fun_induction operandPieces operands with
  | case1 => rfl
  | case2 operand => simp [operands?]
  | case3 operand rest several ih => simp [operands?, ih]

/-- An instruction is made up of its pieces. -/
theorem ofPieces?_pieces (instruction : Instruction) :
    ofPieces? instruction.pieces = some instruction := by
  -- The marks are taken off, the mnemonic is read, and the operands are what is left.
  simp only [ofPieces?, pieces, after?_append, operands?_operandPieces, String.ofList_toList,
    Option.bind_eq_bind, Option.bind_some, Option.pure_def]

/-- The quotations of operands, with the brackets that close them, are read as their pieces. -/
theorem reads_operands (operands : List String) {done : List Piece} :
    Reads ⟨done, .outside⟩
      ([',', ' '].intercalate (operands.map fun operand => quoteChars operand.toList) ++
        [']', ')'])
      ⟨done ++ operandPieces operands, .outside⟩ := by
  -- Behind the last operand come the brackets, and behind any other a separator.
  have closing {done : List Piece} : Reads ⟨done, .outside⟩ [']', ')']
      ⟨done ++ [.mark ']', .mark ')'], .outside⟩ := reads_marks done (by decide) (by decide)
  have between {done : List Piece} : Reads ⟨done, .outside⟩ [',', ' ']
      ⟨done ++ [.mark ',', .mark ' '], .outside⟩ := reads_marks done (by decide) (by decide)
  fun_induction operandPieces operands generalizing done with
  | case1 => exact closing
  -- The last operand is closed at once.
  | case2 operand =>
    have read := (reads_quoteChars done operand.toList).append closing
    rw [List.append_assoc, List.singleton_append] at read
    rwa [List.map_singleton, List.intercalate_singleton]
  | case3 operand rest several ih =>
    -- Another one is followed by the separator and the rest.
    have read := (reads_quoteChars done operand.toList).append (between.append ih)
    obtain ⟨next, more, rfl⟩ := List.exists_cons_of_ne_nil several
    simpa [List.intercalate_cons_cons] using read

/-- The quotation of an instruction as a list of characters. -/
theorem toList_quoted (instruction : Instruction) :
    instruction.quoted.toList = opening ++ (quoteChars instruction.mnemonic.toList ++
      (middle ++ ([',', ' '].intercalate
        (instruction.operands.map fun operand => quoteChars operand.toList) ++ [']', ')']))) := by
  -- The fixed parts are written as characters.
  have separator : ", ".toList = [',', ' '] := by decide
  have closing : "])".toList = [']', ')'] := by decide
  have opens : "Instruction(".toList = opening := rfl
  have between : ", [".toList = middle := rfl
  rw [Instruction.quoted, String.toList_append, String.toList_append, String.toList_append,
    String.toList_append, String.toList_intercalate, closing, separator, opens, between]
  simp only [Text.quoted, String.toList_ofList, List.map_map, Function.comp_def,
    List.append_assoc]

/-- A quoted instruction is read as its pieces. -/
theorem pieces?_quoted (instruction : Instruction) :
    pieces? instruction.quoted.toList = some instruction.pieces := by
  -- The quotation is read part by part, in the order in which it is written.
  have read : Reads ⟨[], .outside⟩ instruction.quoted.toList ⟨instruction.pieces, .outside⟩ := by
    have front (done : List Piece) :
        Reads ⟨done, .outside⟩ opening ⟨done ++ opening.map .mark, .outside⟩ :=
      reads_marks done (by decide) (by decide)
    have between (done : List Piece) :
        Reads ⟨done, .outside⟩ middle ⟨done ++ middle.map .mark, .outside⟩ :=
      reads_marks done (by decide) (by decide)
    have whole := (front []).append ((reads_quoteChars _ instruction.mnemonic.toList).append
      ((between _).append (reads_operands instruction.operands)))
    rw [toList_quoted, pieces]
    simpa only [List.nil_append, List.append_assoc, List.cons_append] using whole
  rw [pieces?, read]
  rfl

/--
A quoted instruction is read back as the instruction, so different ones have different quotations.

This holds whatever quotes, backslashes, separators, brackets and controls the texts are made of.
-/
theorem quoted_faithful :
    (∀ instruction : Instruction, read? instruction.quoted = some instruction) ∧
    ∀ first second : Instruction, first.quoted = second.quoted ↔ first = second := by
  -- The pieces that are read are those of the instruction, and these make it up.
  have reads (instruction : Instruction) : read? instruction.quoted = some instruction := by
    rw [read?, pieces?_quoted, Option.bind_some, ofPieces?_pieces]
  refine ⟨reads, fun first second => ⟨fun same => ?_, fun same => same ▸ rfl⟩⟩
  exact Option.some.inj (by rw [← reads first, same, reads second])

end Instruction

end Flowprint
