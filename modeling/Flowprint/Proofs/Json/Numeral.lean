import Flowprint.Json.Numeral
import Flowprint.Json.Token
import Mathlib.Data.List.TakeWhile

/-! The numeral of an integer reads back as the integer. -/

namespace Flowprint.Json

/-- Only zero is written with a zero in front. -/
theorem head?_toDigits {value : Nat} (zero : (Nat.toDigits 10 value).head? = some '0') :
    value = 0 := by
  -- A number of several digits starts like the number without its last digit.
  induction value using Nat.strongRecOn with
  | ind value ih =>
    -- A single digit that is zero is the number zero.
    by_cases single : value < 10
    · rw [Nat.toDigits_of_lt_base single] at zero
      simpa using zero
    · rw [Nat.toDigits_of_base_le (by decide) (by omega), List.head?_append] at zero
      cases front : (Nat.toDigits 10 (value / 10)).head? with
      | none => exact absurd (List.head?_eq_none_iff.mp front) Nat.toDigits_ne_nil
      | some first =>
        -- The digits in front belong to a tenth of the number, which would be zero.
        rw [front, Option.some_or] at zero
        have nothing := ih (value / 10) (by omega) (front.trans zero)
        omega

namespace Numeral

/-- The digits of a number have the shape of a whole part. -/
theorem wholePart_toDigits (value : Nat) : wholePart (Nat.toDigits 10 value) = true := by
  cases digits : Nat.toDigits 10 value with
  | nil => exact absurd digits Nat.toDigits_ne_nil
  | cons first rest =>
    cases rest with
    | nil => rfl
    | cons second rest =>
      -- A zero in front would be the only digit.
      by_contra refused
      have zero : first = '0' := by simpa [wholePart] using refused
      have nothing := head?_toDigits (by rw [digits, zero]; rfl)
      simp [nothing] at digits

/-- The digits of a number are split off all together. -/
theorem spanDigits_toDigits (value : Nat) :
    spanDigits (Nat.toDigits 10 value) = (Nat.toDigits 10 value, []) := by
  -- There is nothing but digits.
  have digits : ∀ c ∈ Nat.toDigits 10 value, c.isDigit = true :=
    fun _ member => Nat.isDigit_of_mem_toDigits (by decide) (by decide) member
  rw [spanDigits, List.takeWhile_eq_self_iff.mpr digits, List.dropWhile_eq_nil_iff.mpr digits]

/-- No digit is a minus sign. -/
theorem spanMinus_toDigits (value : Nat) :
    spanMinus (Nat.toDigits 10 value) = (false, Nat.toDigits 10 value) := by
  -- A minus sign in front would have to be a digit.
  cases digits : Nat.toDigits 10 value with
  | nil => rfl
  | cons first rest =>
    have digit : first.isDigit = true :=
      Nat.isDigit_of_mem_toDigits (by decide) (by decide) (digits ▸ List.mem_cons_self)
    unfold spanMinus
    split
    · next same => cases same; cases digit
    · rfl

/-- The numeral of an integer reads back as the integer. -/
theorem read?_writeInteger (value : Int) : read? (writeInteger value) = some (.integer value) := by
  -- Behind the sign there is a whole part and nothing else, so neither a fraction nor an exponent.
  unfold writeInteger
  split
  · next negative =>
    -- The sign and the magnitude make up the integer again.
    have sign : signed true value.natAbs = value := by
      simp only [signed, if_true]
      omega
    simp [read?, spanMinus, spanDigits_toDigits, wholePart_toDigits, fraction?, exponent?,
      ofDigits, Nat.ofDigitChars_ten_toDigits, sign]
  · next natural =>
    have sign : signed false value.natAbs = value := by
      simp only [signed, Bool.false_eq_true, if_false]
      omega
    simp [read?, spanMinus_toDigits, spanDigits_toDigits, wholePart_toDigits, fraction?,
      exponent?, ofDigits, Nat.ofDigitChars_ten_toDigits, sign]

/-- The numeral of an integer starts with a digit or a sign, and all of it is of a numeral. -/
theorem writeInteger_eq_cons (value : Int) :
    ∃ first rest, writeInteger value = first :: rest ∧ (first.isDigit || first = '-') = true ∧
      ∀ c ∈ rest, Token.inNumeral c = true := by
  -- All characters of the magnitude are digits, and these occur in numerals.
  have digits : ∀ c ∈ Nat.toDigits 10 value.natAbs, c.isDigit = true :=
    fun _ member => Nat.isDigit_of_mem_toDigits (by decide) (by decide) member
  have inside : ∀ c ∈ Nat.toDigits 10 value.natAbs, Token.inNumeral c = true := by
    intro c member
    simp [Token.inNumeral, digits c member]
  -- Without a sign the first digit comes first.
  unfold writeInteger
  split
  · exact ⟨'-', _, rfl, by decide, inside⟩
  · cases written : Nat.toDigits 10 value.natAbs with
    | nil => exact absurd written Nat.toDigits_ne_nil
    | cons first rest =>
      rw [written] at digits inside
      exact ⟨first, rest, rfl, by simp [digits first List.mem_cons_self],
        fun c member => inside c (List.mem_cons_of_mem _ member)⟩

end Numeral

end Flowprint.Json
