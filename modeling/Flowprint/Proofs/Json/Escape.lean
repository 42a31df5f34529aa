import Flowprint.Json.Token
import Mathlib.Tactic.SplitIfs

/-! An escaped text reads back as the text, and no character of it ends a string. -/

namespace Flowprint.Json

/-- Each of the sixteen digits has the value that it was written for. -/
theorem hexValue?_hexDigit {value : Nat} (small : value < 16) :
    hexValue? (hexDigit value) = some value := by
  -- There are sixteen cases to look at.
  revert value
  decide

/-- No digit ends a string or protects the character behind it. -/
theorem hexDigit_plain {value : Nat} (small : value < 16) :
    hexDigit value ≠ '"' ∧ hexDigit value ≠ '\\' := by
  -- There are sixteen digits, and each is looked at.
  revert value
  decide

/-- The two digits of a control character give its number. -/
theorem unit?_control {code : Nat} (control : code < 0x20) :
    unit? '0' '0' (hexDigit (code / 16)) (hexDigit (code % 16)) = some code := by
  -- The number is below 32, so two digits are enough.
  have high := hexValue?_hexDigit (show code / 16 < 16 by omega)
  have low := hexValue?_hexDigit (show code % 16 < 16 by omega)
  have zero : hexValue? '0' = some 0 := by decide
  simp only [unit?, zero, high, low, Option.bind_eq_bind, Option.bind_some, Option.pure_def,
    Option.some.injEq]
  omega

/-- A character is escaped by a letter, it is escaped by its number, or it stands for itself. -/
theorem escapeChar_cases (c : Char) :
    (∃ mark, shortEscape? mark = some c ∧ escapeChar c = ['\\', mark]) ∨
    (c.toNat < 0x20 ∧ escapeChar c =
      ['\\', 'u', '0', '0', hexDigit (c.toNat / 16), hexDigit (c.toNat % 16)]) ∨
    (c ≠ '"' ∧ c ≠ '\\') ∧ ¬c.toNat < 0x20 ∧ escapeChar c = [c] := by
  -- The branches of the writer are gone through in their order.
  unfold escapeChar
  split_ifs with quote backslash backspace feed line carriage tab control
  · exact Or.inl ⟨'"', by subst quote; decide, rfl⟩
  · exact Or.inl ⟨'\\', by subst backslash; decide, rfl⟩
  · exact Or.inl ⟨'b', by subst backspace; decide, rfl⟩
  · exact Or.inl ⟨'f', by subst feed; decide, rfl⟩
  · exact Or.inl ⟨'n', by subst line; decide, rfl⟩
  · exact Or.inl ⟨'r', by subst carriage; decide, rfl⟩
  · exact Or.inl ⟨'t', by subst tab; decide, rfl⟩
  · exact Or.inr (Or.inl ⟨control, rfl⟩)
  · exact Or.inr (Or.inr ⟨⟨quote, backslash⟩, control, rfl⟩)

/-- An escape of one letter reads as its character. -/
theorem unescape_short {mark c : Char} (short : shortEscape? mark = some c) (rest : List Char) :
    unescape ('\\' :: mark :: rest) = (unescape rest).map (c :: ·) := by
  -- The letter of escapes by number is none of these.
  have other : mark ≠ 'u' := by
    rintro rfl
    cases short
  rw [unescape.eq_def]
  split
  · -- The rule for the end of the text does not apply.
    next same => cases same
  · next same => exact absurd (List.cons.inj (List.cons.inj same).2).1 other
  · -- The letter is looked up, and then the rest is read.
    next same =>
    obtain ⟨rfl, rfl⟩ := List.cons.inj (List.cons.inj same).2
    cases unescape rest <;> simp [short]
  · -- The rule for plain characters is only for those that are no backslash.
    next notEscape same =>
    obtain ⟨rfl, rfl⟩ := List.cons.inj same
    exact (notEscape mark rest rfl rfl).elim

/-- An escaped character in front of a text reads as the character. -/
theorem unescape_escapeChar (c : Char) (rest : List Char) :
    unescape (escapeChar c ++ rest) = (unescape rest).map (c :: ·) := by
  rcases escapeChar_cases c with
    ⟨mark, short, form⟩ | ⟨control, form⟩ | ⟨⟨-, backslash⟩, printable, form⟩
  · rw [form]
    exact unescape_short short rest
  · -- Control characters are no surrogates.
    have high : isHigh c.toNat = false := by simp [isHigh]; omega
    have low : isLow c.toNat = false := by simp [isLow]; omega
    cases later : unescape rest <;> simp [form, unescape, unit?_control control, high, low, later]
  · -- A character that stands for itself opens no escape.
    rw [form, List.singleton_append, unescape.eq_def]
    split
    · next same => cases same
    · next same => exact absurd (List.cons.inj same).1 backslash
    · next same => exact absurd (List.cons.inj same).1 backslash
    · next same =>
      obtain ⟨rfl, rfl⟩ := List.cons.inj same
      cases unescape rest <;> simp [backslash, printable]

/-- An escaped text reads back as the text. -/
theorem unescape_escape (text : List Char) : unescape (escape text) = some text := by
  -- Each character is read before the rest, as it was written.
  induction text with
  | nil => simp [escape, unescape]
  | cons c rest ih =>
    rw [escape, List.flatMap_cons, unescape_escapeChar, ← escape, ih, Option.map_some]

namespace Token.Scan

variable {taken : List Char} {tokens : List Token}

/-- Inside a string most characters are taken as they are. -/
theorem foldlM_plain {c : Char} (plain : c ≠ '"' ∧ c ≠ '\\') (rest : List Char) :
    (c :: rest).foldlM step ⟨.text taken, tokens⟩ =
      rest.foldlM step ⟨.text (c :: taken), tokens⟩ := by
  -- Neither of the two special characters stands there.
  simp [step, plain]

/-- A backslash takes the next character with it, whatever that is. -/
theorem foldlM_protected (c : Char) (rest : List Char) :
    ('\\' :: c :: rest).foldlM step ⟨.text taken, tokens⟩ =
      rest.foldlM step ⟨.text (c :: '\\' :: taken), tokens⟩ := by
  -- The machine waits for one character and puts it behind the others.
  simp [step]

/-- A scan inside a string goes over an escaped character. -/
theorem foldlM_escapeChar (c : Char) (taken rest : List Char) :
    (escapeChar c ++ rest).foldlM step ⟨.text taken, tokens⟩ =
      rest.foldlM step ⟨.text ((escapeChar c).reverse ++ taken), tokens⟩ := by
  rcases escapeChar_cases c with ⟨mark, -, form⟩ | ⟨control, form⟩ | ⟨plain, -, form⟩
  · -- The letter of a short escape is protected by the backslash.
    rw [form]
    exact foldlM_protected mark rest
  · -- Only the first character of an escape by number is protected, and the others are plain.
    have high := hexDigit_plain (show c.toNat / 16 < 16 by omega)
    have low := hexDigit_plain (show c.toNat % 16 < 16 by omega)
    rw [form]
    simp only [List.cons_append, List.nil_append]
    rw [foldlM_protected, foldlM_plain (by decide), foldlM_plain (by decide), foldlM_plain high,
      foldlM_plain low]
    rfl
  · -- A character that stands for itself is plain.
    rw [form]
    exact foldlM_plain plain rest

/-- A scan inside a string goes over an escaped text. -/
theorem foldlM_escape (text taken rest : List Char) :
    (escape text ++ rest).foldlM step ⟨.text taken, tokens⟩ =
      rest.foldlM step ⟨.text ((escape text).reverse ++ taken), tokens⟩ := by
  -- The text is gone through character by character, each behind those before it.
  induction text generalizing taken with
  | nil => rfl
  | cons c more ih =>
    rw [escape, List.flatMap_cons, List.append_assoc, foldlM_escapeChar, ← escape, ih,
      List.reverse_append, List.append_assoc]

end Token.Scan

end Flowprint.Json
