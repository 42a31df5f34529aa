import Flowprint.Address

/-! Different addresses have different hexadecimal forms, and these are made of plain characters. -/

namespace Flowprint

/-- The sixteen digits are different. -/
theorem digitChar_inj {first second : Nat} (one : first < 16) (two : second < 16)
    (same : Nat.digitChar first = Nat.digitChar second) : first = second := by
  -- There are few enough pairs to go through all of them.
  have all : ∀ first < 16, ∀ second < 16,
      Nat.digitChar first = Nat.digitChar second → first = second := by decide
  exact all first one second two same

section Digits

variable {base : Nat}

/-- The digits of a number are digits or letters. -/
theorem isAlphanum_of_mem_toDigits (several : 1 < base) (few : base ≤ 16) {number : Nat} {c : Char}
    (member : c ∈ Nat.toDigits base number) : c.isAlphanum = true := by
  -- There are sixteen digits to look at.
  have digit : ∀ value < 16, (Nat.digitChar value).isAlphanum = true := by decide
  -- The induction takes off the last digit.
  induction number using Nat.strongRecOn with
  | ind number ih =>
    rw [Nat.toDigits_eq_if several] at member
    split at member
    · next single =>
      rw [List.mem_singleton.mp member]
      exact digit number (by omega)
    · next large =>
      rcases List.mem_append.mp member with earlier | last
      · exact ih (number / base) (Nat.div_lt_self (by omega) several) earlier
      · have small : number % base < base := Nat.mod_lt number (by omega)
        rw [List.mem_singleton.mp last]
        exact digit _ (by omega)

/-- One digit is less than several. -/
theorem singleton_ne_toDigits (first last : Char) (front : Nat) :
    [first] ≠ Nat.toDigits base front ++ [last] := by
  -- A list of one would have two elements.
  intro same
  have lengths := congrArg List.length same
  have more : (Nat.toDigits base front).length ≠ 0 := by simp [Nat.toDigits_ne_nil]
  simp only [List.length_append, List.length_singleton] at lengths
  omega

/-- A number is known by its digits. -/
theorem toDigits_inj (several : 1 < base) (few : base ≤ 16) {first second : Nat}
    (same : Nat.toDigits base first = Nat.toDigits base second) : first = second := by
  -- The last digits agree, and so do the numbers that are left without them.
  induction first using Nat.strongRecOn generalizing second with
  | ind first ih =>
    -- Both numbers are a single digit, or both have one behind those of the quotient.
    rw [Nat.toDigits_eq_if (n := first) several, Nat.toDigits_eq_if (n := second) several] at same
    split at same
    · next single =>
      split at same
      · next alsoSingle =>
        exact digitChar_inj (by omega) (by omega) (List.singleton_inj.mp same)
      · exact absurd same (singleton_ne_toDigits _ _ _)
    · next large =>
      split at same
      · exact absurd same.symm (singleton_ne_toDigits _ _ _)
      · obtain ⟨front, last⟩ := List.append_inj' same rfl
        have quotients := ih (first / base) (Nat.div_lt_self (by omega) several) front
        have one : first % base < base := Nat.mod_lt first (by omega)
        have other : second % base < base := Nat.mod_lt second (by omega)
        -- Quotient and remainder make up the number again.
        have remainders := digitChar_inj (by omega) (by omega) (List.singleton_inj.mp last)
        rw [← Nat.div_add_mod first base, ← Nat.div_add_mod second base, quotients, remainders]

end Digits

namespace Address

/-- The hexadecimal form with some mark between the sign and the digits. -/
def signed (mark : List Char) (address : Address) : List Char :=
  (if address < 0 then ['-'] else []) ++ mark ++ Nat.toDigits 16 address.natAbs

/-- The bare form has no mark. -/
theorem toList_hex (address : Address) : address.hex.toList = address.signed [] := by
  -- Without a mark the sign comes right before the digits.
  rw [hex, String.toList_ofList, hexDigits, signed]
  split <;> rfl

/-- The marked form has a mark. -/
theorem toList_markedHex (address : Address) :
    address.markedHex.toList = address.signed ['0', 'x'] := by
  -- The mark stands between the sign and the digits.
  rw [markedHex, signed]
  split <;> simp

variable {mark : List Char}

/-- There is no sign in the digits, so the sign can be told from what follows it. -/
theorem mem_signed_sign (unsigned : '-' ∉ mark) (address : Address) :
    '-' ∈ address.signed mark ↔ address < 0 := by
  -- A digit or a letter is no sign.
  have digits : '-' ∉ Nat.toDigits 16 address.natAbs := by
    intro member
    have alphanumeric := isAlphanum_of_mem_toDigits (by decide) (by decide) member
    revert alphanumeric
    decide
  rw [signed]
  split
  · next negative => simp [negative]
  · next natural => simp [natural, unsigned, digits]

/-- An address is known by its form. -/
theorem signed_inj (unsigned : '-' ∉ mark) {first second : Address}
    (same : first.signed mark = second.signed mark) : first = second := by
  -- Whether there is a sign in front is the same, and then the digits are.
  have signs : first < 0 ↔ second < 0 := by
    rw [← mem_signed_sign unsigned, ← mem_signed_sign unsigned, same]
  have absolute : first.natAbs = second.natAbs := by
    rw [signed, signed] at same
    simp only [signs] at same
    exact toDigits_inj (by decide) (by decide) (List.append_cancel_left same)
  -- A number is known by its size and by whether it is negative.
  have apart : ∀ one other : Int, (one < 0 ↔ other < 0) → one.natAbs = other.natAbs →
      one = other := by omega
  exact apart first second signs absolute

/-- A sign, the mark and the digits make the form, so no special character stands in it. -/
theorem notMem_signed (plain : ∀ c ∈ mark, c.isAlphanum = true) {address : Address} {c : Char}
    (special : c.isAlphanum = false) (unsigned : c ≠ '-') : c ∉ address.signed mark := by
  -- The three parts are gone through one by one.
  rw [signed, List.mem_append, List.mem_append]
  rintro ((sign | inMark) | digit)
  · split at sign
    · exact unsigned (List.mem_singleton.mp sign)
    · cases sign
  · rw [plain c inMark] at special
    cases special
  · rw [isAlphanum_of_mem_toDigits (by decide) (by decide) digit] at special
    cases special

/-- Different addresses have different bare forms. -/
theorem hex_inj {first second : Address} (same : first.hex = second.hex) : first = second := by
  -- Both forms are made by one function, which tells addresses apart with either mark.
  have forms : first.signed [] = second.signed [] := by
    rw [← toList_hex, ← toList_hex, same]
  exact signed_inj (by decide) forms

/-- Different addresses have different marked forms. -/
theorem markedHex_inj {first second : Address} (same : first.markedHex = second.markedHex) :
    first = second := by
  -- The mark is neither a sign nor empty, so the same function is used.
  have forms : first.signed ['0', 'x'] = second.signed ['0', 'x'] := by
    rw [← toList_markedHex, ← toList_markedHex, same]
  exact signed_inj (by decide) forms

section Special

variable {address : Address} {c : Char}

/-- No character that is special anywhere stands in a bare form. -/
theorem notMem_hex (special : c.isAlphanum = false) (unsigned : c ≠ '-') :
    c ∉ address.hex.toList := by
  -- The sign and the digits are all there is.
  rw [toList_hex]
  exact notMem_signed (by simp) special unsigned

/-- No character that is special anywhere stands in a marked form. -/
theorem notMem_markedHex (special : c.isAlphanum = false) (unsigned : c ≠ '-') :
    c ∉ address.markedHex.toList := by
  -- The mark itself has no special character, either.
  rw [toList_markedHex]
  exact notMem_signed (by simp) special unsigned

end Special

end Address

end Flowprint
