import Flowprint.Json.Writer
import Flowprint.Proofs.Json.Escape
import Flowprint.Proofs.Json.Numeral

/-! A written value is scanned as the tokens of the value. -/

namespace Flowprint.Json

mutual

/-- The tokens of a value in the order in which they are written. -/
def tokens : Json → List Token
  | .null => [.null]
  | .bool value => [.bool value]
  | .integer value => [.number (.integer value)]
  | .decimal value => [.number (.decimal value)]
  | .string text => [.string text]
  | .array [] => [.openArray, .closeArray]
  | .array (first :: rest) => .openArray :: (tokens first ++ (itemTokens rest ++ [.closeArray]))
  | .object [] => [.openObject, .closeObject]
  | .object ((key, value) :: rest) =>
    .openObject :: .string key :: .colon :: (tokens value ++ (fieldTokens rest ++ [.closeObject]))

/-- The tokens of the items after the first one. -/
def itemTokens : List Json → List Token
  | [] => []
  | item :: rest => .comma :: (tokens item ++ itemTokens rest)

/-- The tokens of the fields after the first one. -/
def fieldTokens : List (String × Json) → List Token
  | [] => []
  | (key, value) :: rest => .comma :: .string key :: .colon :: (tokens value ++ fieldTokens rest)

end

mutual

/-- A value that is written exactly: it holds no decimal, and no object in it has a key twice. -/
def Exact : Json → Prop
  | .decimal _ => False
  | .array items => ExactAmong items
  | .object fields => (fields.map (·.1)).Nodup ∧ ExactUnder fields
  | _ => True

/-- All of some values are exact. -/
def ExactAmong : List Json → Prop
  | [] => True
  | item :: rest => Exact item ∧ ExactAmong rest

/-- The values of some fields are exact. -/
def ExactUnder : List (String × Json) → Prop
  | [] => True
  | (_, value) :: rest => Exact value ∧ ExactUnder rest

end

namespace Token

/-- The codes of the lower-case letters. -/
theorem isLower_iff {c : Char} : c.isLower = true ↔ 97 ≤ c.toNat ∧ c.toNat ≤ 122 := by
  -- A test on characters is one on their codes.
  show (decide ('a'.val ≤ c.val) && decide (c.val ≤ 'z'.val)) = true ↔ _
  simp [UInt32.le_iff_toNat_le, ← Char.toNat_val]

/-- The codes of the digits. -/
theorem isDigit_iff {c : Char} : c.isDigit = true ↔ 48 ≤ c.toNat ∧ c.toNat ≤ 57 := by
  -- A test on characters is one on their codes, here as well.
  simp [Char.isDigit, UInt32.le_iff_toNat_le, ← Char.toNat_val]

/-- No blank has a code above that of the space. -/
theorem toNat_le_of_isBlank {c : Char} (blank : isBlank c = true) : c.toNat ≤ 32 := by
  -- There are four blanks, and the space has the highest code of them.
  simp only [isBlank, Bool.or_eq_true, decide_eq_true_eq] at blank
  rcases blank with ((rfl | rfl) | rfl) | rfl <;> decide

/-- Scanning a text to its end finds these tokens in it, whatever was found before. -/
def Scans (text : List Char) (found : List Token) : Prop :=
  ∀ before, (text.foldlM Scan.step ⟨.between, before⟩).bind Scan.finish =
    some (found.reverse ++ before)

/-- A text goes on with a character that ends every word and every numeral, if it goes on at all. -/
def Delimited (text : List Char) : Prop :=
  ∀ c ∈ text.head?, c.isLower = false ∧ inNumeral c = false

namespace Scan

/-- A delimiter ends a token that can end. -/
theorem foldlM_delimited {scan : Scan} {found : List Token} (ends : scan.finish = some found)
    {rest : List Char} (delimited : Delimited rest) :
    (rest.foldlM step scan).bind finish = (rest.foldlM step ⟨.between, found⟩).bind finish := by
  -- The delimiter is taken as if the token had ended before it.
  cases rest with
  | nil => simpa [finish] using ends
  | cons c rest =>
    obtain ⟨notLower, notNumeral⟩ := delimited c rfl
    have same : scan.step c = step ⟨.between, found⟩ c := by
      -- Between tokens nothing ends; a word and a numeral end; a text cannot end here.
      obtain ⟨mode, tokens⟩ := scan
      cases mode with
      | between => cases ends; rfl
      | word taken => simp [step, notLower, ends]
      | numeral taken => simp [step, notNumeral, ends]
      | text taken => cases ends
      | escaped taken => cases ends
    rw [List.foldlM_cons, List.foldlM_cons, same]

/-- Words and numerals are read in modes that take every character of some kind. -/
def Takes (mode : List Char → Mode) (kind : Char → Bool) : Prop :=
  ∀ taken found c, kind c = true →
    step ⟨mode taken, found⟩ c = some ⟨mode (c :: taken), found⟩

/-- A word takes all lower-case letters. -/
theorem takes_word : Takes .word Char.isLower := by
  -- Inside a word such a letter is put behind the others.
  intro taken found c lower
  simp [step, lower]

/-- A numeral takes all characters that numerals have. -/
theorem takes_numeral : Takes .numeral inNumeral := by
  -- Inside a numeral such a character is put behind the others.
  intro taken found c inside
  simp [step, inside]

/-- Characters of one kind are all taken, one after the other. -/
theorem Takes.foldlM {mode : List Char → Mode} {kind : Char → Bool} (takes : Takes mode kind)
    {text : List Char} (inside : ∀ c ∈ text, kind c = true) (taken rest : List Char)
    (found : List Token) :
    (text ++ rest).foldlM step ⟨mode taken, found⟩ =
      rest.foldlM step ⟨mode (text.reverse ++ taken), found⟩ := by
  -- What was taken before grows by each character in turn.
  induction text generalizing taken with
  | nil => rfl
  | cons c text ih =>
    rw [List.cons_append, List.foldlM_cons, takes taken found c (inside c List.mem_cons_self),
      Option.bind_eq_bind, Option.bind_some,
      ih fun c member => inside c (List.mem_cons_of_mem _ member)]
    simp

/-- A digit or a sign begins a numeral. -/
theorem enter_numeral {c : Char} (first : (c.isDigit || c = '-') = true) (found : List Token) :
    enter found c = some ⟨.numeral [c], found⟩ := by
  -- Blanks and quotes come before the sign and the digits, and letters behind them.
  have code : 45 ≤ c.toNat ∧ c.toNat ≤ 57 := by
    simp only [Bool.or_eq_true, decide_eq_true_eq, isDigit_iff] at first
    rcases first with digit | rfl
    · omega
    · decide
  have notBlank : isBlank c = false := by
    by_contra blank
    have low := toNat_le_of_isBlank (by simpa using blank)
    omega
  have notQuote : c ≠ '"' := by rintro rfl; exact absurd code (by decide)
  have notLower : c.isLower = false := by
    by_contra lower
    have high := isLower_iff.mp (by simpa using lower)
    omega
  simp [enter, notBlank, notQuote, notLower, first]

/-- A lower-case letter begins a word. -/
theorem enter_word {c : Char} (lower : c.isLower = true) (found : List Token) :
    enter found c = some ⟨.word [c], found⟩ := by
  -- Blanks and quotes come before all letters.
  have code := isLower_iff.mp lower
  have notBlank : isBlank c = false := by
    by_contra blank
    have low := toNat_le_of_isBlank (by simpa using blank)
    omega
  have notQuote : c ≠ '"' := by rintro rfl; exact absurd code (by decide)
  simp [enter, notBlank, notQuote, lower]

end Scan

variable {rest : List Char} {found : List Token}

/-- Nothing is scanned as nothing. -/
theorem scans_nil : Scans [] [] := fun _ => rfl

/-- A blank in front changes nothing. -/
theorem scans_blank {c : Char} (blank : isBlank c = true) (scans : Scans rest found) :
    Scans (c :: rest) found := by
  -- The machine stays between tokens.
  intro before
  rw [List.foldlM_cons]
  simpa [Scan.step, Scan.enter, blank] using scans before

/-- A mark in front is a token by itself. -/
theorem scans_mark {c : Char} {mark : Token}
    (enters : ∀ before, Scan.enter before c = some ⟨.between, mark :: before⟩)
    (scans : Scans rest found) : Scans (c :: rest) (mark :: found) := by
  -- The machine puts the token behind those before it and stays between tokens.
  intro before
  rw [List.foldlM_cons]
  simpa [Scan.step, enters] using scans (mark :: before)

/-- A string in front is one token, whatever follows its closing quote. -/
theorem scans_string (text : String) (scans : Scans rest found) :
    Scans (writeString text ++ rest) (.string text :: found) := by
  -- No escaped character ends the string, so the scan is still inside it at the closing quote.
  intro before
  have opened : Scan.step ⟨.between, before⟩ '"' = some ⟨.text [], before⟩ := rfl
  have closed : Scan.step ⟨.text ((escape text.toList).reverse ++ []), before⟩ '"' =
      some ⟨.between, .string text :: before⟩ := by
    simp [Scan.step, unescape_escape]
  rw [writeString, List.cons_append, List.append_assoc, List.singleton_append, List.foldlM_cons,
    opened, Option.bind_eq_bind, Option.bind_some, Scan.foldlM_escape, List.foldlM_cons, closed,
    Option.bind_eq_bind, Option.bind_some, scans]
  simp

/-- A key in front is a string and a colon. -/
theorem scans_key (key : String) (scans : Scans rest found) :
    Scans (writeString key ++ ':' :: ' ' :: rest) (.string key :: .colon :: found) :=
  -- In writing, a colon and a blank stand behind the key.
  scans_string key (scans_mark (fun _ => rfl) (scans_blank rfl scans))

/-- Characters of one kind in front are one token if a delimiter follows them. -/
theorem scans_taken {mode : List Char → Mode} {kind : Char → Bool} {first : Char}
    {text : List Char} {token : Token} (takes : Scan.Takes mode kind)
    (enters : ∀ before, Scan.enter before first = some ⟨mode [first], before⟩)
    (inside : ∀ c ∈ text, kind c = true)
    (ends : ∀ before, Scan.finish ⟨mode (text.reverse ++ [first]), before⟩ =
      some (token :: before))
    (delimited : Delimited rest) (scans : Scans rest found) :
    Scans (first :: text ++ rest) (token :: found) := by
  -- The first character opens the mode, the others are taken in it, and the delimiter ends it.
  intro before
  have entered : Scan.step ⟨.between, before⟩ first = some ⟨mode [first], before⟩ := enters before
  rw [List.cons_append, List.foldlM_cons, entered, Option.bind_eq_bind, Option.bind_some,
    takes.foldlM inside, Scan.foldlM_delimited (ends before) delimited, scans]
  simp

/-- A word in front is one token if a delimiter follows it. -/
theorem scans_word {c : Char} {word : List Char} {token : Token}
    (letters : (c :: word).all Char.isLower = true) (known : ofWord? (c :: word) = some token)
    (delimited : Delimited rest) (scans : Scans rest found) :
    Scans (c :: word ++ rest) (token :: found) := by
  -- All of its letters are lower-case, so the word is entered and taken to its end.
  have lower : ∀ letter ∈ c :: word, letter.isLower = true := List.all_eq_true.mp letters
  refine scans_taken Scan.takes_word ?_ ?_ ?_ delimited scans
  · exact Scan.enter_word (lower c List.mem_cons_self)
  · exact fun letter member => lower letter (List.mem_cons_of_mem _ member)
  · -- At its end it is a known word.
    intro before
    simp [Scan.finish, known]

/-- The numeral of an integer in front is one token if a delimiter follows it. -/
theorem scans_integer (value : Int) (delimited : Delimited rest) (scans : Scans rest found) :
    Scans (Numeral.writeInteger value ++ rest) (.number (.integer value) :: found) := by
  -- The numeral begins as one, and it is read as the integer at its end.
  obtain ⟨c, numeral, written, first, inside⟩ := Numeral.writeInteger_eq_cons value
  have read : Numeral.read? (c :: numeral) = some (.integer value) :=
    written ▸ Numeral.read?_writeInteger value
  rw [written]
  refine scans_taken Scan.takes_numeral (Scan.enter_numeral first) inside ?_ delimited scans
  intro before
  simp [Scan.finish, read]

/-- A line break with its indentation changes nothing. -/
theorem scans_newLine (level : Nat) (scans : Scans rest found) :
    Scans (newLine level ++ rest) found := by
  -- The indentation is blank after blank, and the line break is one more.
  have blanks : ∀ count, Scans (List.replicate count ' ' ++ rest) found := by
    intro count
    induction count with
    | zero => exact scans
    | succ count ih => exact scans_blank rfl ih
  exact scans_blank rfl (blanks (2 * level))

/-- A line break is a delimiter. -/
theorem delimited_newLine (level : Nat) (rest : List Char) : Delimited (newLine level ++ rest) := by
  -- A line break belongs to no word and no numeral.
  intro c first
  cases first
  decide

/-- A comma is a delimiter. -/
theorem delimited_comma (rest : List Char) : Delimited (',' :: rest) := by
  -- A comma belongs to no word and no numeral.
  intro c first
  cases first
  decide

end Token

open Token

/-- What follows an item is delimited from it. -/
theorem delimited_writeItems (level : Nat) (items : List Json) {rest : List Char}
    (delimited : Delimited rest) : Delimited (writeItems level items ++ rest) := by
  -- Another item is announced by a comma; otherwise what follows the array is next.
  cases items with
  | nil => exact delimited
  | cons item more => exact delimited_comma _

/-- What follows the value of a field is delimited from it. -/
theorem delimited_writeFields (level : Nat) (fields : List (String × Json)) {rest : List Char}
    (delimited : Delimited rest) : Delimited (writeFields level fields ++ rest) := by
  -- Another field is announced by a comma; otherwise what follows the object is next.
  cases fields with
  | nil => exact delimited
  | cons field more => exact delimited_comma _

mutual

/-- A written value in front is scanned as its tokens if a delimiter follows it. -/
theorem scans_write (value : Json) (level : Nat) {rest : List Char} {found : List Token}
    (exact : Exact value) (delimited : Delimited rest) (scans : Scans rest found) :
    Scans (write level value ++ rest) (tokens value ++ found) := by
  match value with
  | .null => exact scans_word rfl rfl delimited scans
  | .bool true => exact scans_word rfl rfl delimited scans
  | .bool false => exact scans_word rfl rfl delimited scans
  | .integer whole => exact scans_integer whole delimited scans
  | .string text => exact scans_string text scans
  | .array [] => exact scans_mark (fun _ => rfl) (scans_mark (fun _ => rfl) scans)
  | .array (first :: items) =>
    -- From the closing bracket backwards, each part is put in front of what follows it.
    obtain ⟨exactFirst, exactItems⟩ := exact
    have closed : Scans (newLine level ++ ']' :: rest) (.closeArray :: found) :=
      scans_newLine level (scans_mark (fun _ => rfl) scans)
    have ending := delimited_newLine level (']' :: rest)
    have later := scans_writeItems items (level + 1) exactItems ending closed
    have opened := scans_newLine (level + 1) (scans_write first (level + 1) exactFirst
      (delimited_writeItems (level + 1) items ending) later)
    simpa [write, tokens] using scans_mark (c := '[') (fun _ => rfl) opened
  | .object [] => exact scans_mark (fun _ => rfl) (scans_mark (fun _ => rfl) scans)
  | .object ((key, first) :: fields) =>
    -- The same way backwards, with a key in front of every value.
    obtain ⟨-, exactFirst, exactFields⟩ := exact
    have closed : Scans (newLine level ++ '\x7d' :: rest) (.closeObject :: found) :=
      scans_newLine level (scans_mark (fun _ => rfl) scans)
    have ending := delimited_newLine level ('\x7d' :: rest)
    have later := scans_writeFields fields (level + 1) exactFields ending closed
    have valued := scans_write first (level + 1) exactFirst
      (delimited_writeFields (level + 1) fields ending) later
    have opened := scans_newLine (level + 1) (scans_key key valued)
    simpa [write, tokens] using scans_mark (c := '\x7b') (fun _ => rfl) opened

/-- Further items in front are scanned as their tokens. -/
theorem scans_writeItems (items : List Json) (level : Nat) {rest : List Char} {found : List Token}
    (exact : ExactAmong items) (delimited : Delimited rest) (scans : Scans rest found) :
    Scans (writeItems level items ++ rest) (itemTokens items ++ found) := by
  -- Each item is delimited by the comma of the next one, or by what follows the last.
  match items with
  | [] => exact scans
  | item :: more =>
    obtain ⟨exactItem, exactMore⟩ := exact
    have later := scans_writeItems more level exactMore delimited scans
    have entered := scans_newLine level (scans_write item level exactItem
      (delimited_writeItems level more delimited) later)
    simpa [writeItems, itemTokens] using scans_mark (c := ',') (fun _ => rfl) entered

/-- Further fields in front are scanned as their tokens. -/
theorem scans_writeFields (fields : List (String × Json)) (level : Nat) {rest : List Char}
    {found : List Token} (exact : ExactUnder fields) (delimited : Delimited rest)
    (scans : Scans rest found) :
    Scans (writeFields level fields ++ rest) (fieldTokens fields ++ found) := by
  match fields with
  | [] => exact scans
  | (key, value) :: more =>
    -- Backwards again: the later fields, the value, the key, and the comma in front.
    obtain ⟨exactValue, exactMore⟩ := exact
    have later := scans_writeFields more level exactMore delimited scans
    have valued := scans_write value level exactValue
      (delimited_writeFields level more delimited) later
    have entered := scans_newLine level (scans_key key valued)
    simpa [writeFields, fieldTokens] using scans_mark (c := ',') (fun _ => rfl) entered

end

/-- A value that is written exactly is scanned as its tokens. -/
theorem scan?_write {value : Json} (exact : Exact value) :
    Token.scan? (value.write 0) = some value.tokens := by
  -- The end of the text is a delimiter too.
  have scans := scans_write value 0 exact (fun c none => by cases none) scans_nil []
  simp only [List.append_nil] at scans
  obtain ⟨done, scanned, ends⟩ := Option.bind_eq_some_iff.mp scans
  simp [Token.scan?, Scan.start, scanned, ends]

end Flowprint.Json
