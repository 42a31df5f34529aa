import Flowprint.Text.Lowercase
import Mathlib.Data.List.Basic

/-! Writing a text in lower case puts no slash into it. -/

namespace Flowprint.Text

/-- Every letter that changes its case changes it to a code point behind that of the slash. -/
theorem slash_lt_lower : ∀ run ∈ caseRuns, '/'.toNat < run.lower := by
  -- The table of letters is finite, so each row is looked at.
  decide +kernel

/-- Only the slash has the slash as its lower-case form. -/
theorem lowerCode_eq_slash {code : Nat} (slash : lowerCode code = '/'.toNat) :
    code = '/'.toNat := by
  unfold lowerCode at slash
  -- A code that changes is in the table, where no lower-case code is so low.
  split at slash
  · next run found =>
    have above := slash_lt_lower run (List.mem_of_find?_eq_some found)
    omega
  · exact slash

/-- A code point that is no character stands for the zero character. -/
theorem toNat_ofNat (code : Nat) :
    (Char.ofNat code).toNat = if code.isValidChar then code else 0 := by
  unfold Char.ofNat
  -- Whether the code is that of a character decides.
  by_cases valid : code.isValidChar
  · rw [dif_pos valid, if_pos valid]
    rfl
  · rw [dif_neg valid, if_neg valid]
    rfl

/-- A character whose lower-case form has a slash is the slash. -/
theorem eq_slash_of_mem_lowerChar {before after : List Char} {c : Char}
    (member : '/' ∈ lowerChar before c after) : c = '/' := by
  -- Two letters have forms of their own, and any other has the form of the table.
  unfold lowerChar at member
  split at member
  · split at member <;> simp at member
  · split at member
    · simp at member
    · rw [List.mem_singleton] at member
      -- The zero character is no slash.
      have code : '/'.toNat = (Char.ofNat (lowerCode c.toNat)).toNat := congrArg Char.toNat member
      rw [toNat_ofNat (lowerCode c.toNat)] at code
      split at code
      · rw [← Char.ofNat_toNat c, lowerCode_eq_slash code.symm]
        rfl
      · cases code

/-- A slash in a text in lower case was there before. -/
theorem slash_mem_of_lowercase {text : String} (member : '/' ∈ (lowercase text).toList) :
    '/' ∈ text.toList := by
  have general (rest before : List Char) (among : '/' ∈ lowerAfter before rest) :
      '/' ∈ rest := by
    -- Each character is written for itself, whatever stands around it.
    induction rest generalizing before with
    | nil => exact among
    | cons c rest ih =>
      rw [lowerAfter, List.mem_append] at among
      rcases among with here | later
      · rw [eq_slash_of_mem_lowerChar here]
        exact List.mem_cons_self
      · exact List.mem_cons_of_mem c (ih (c :: before) later)
  rw [lowercase, String.toList_ofList] at member
  exact general text.toList [] member

end Flowprint.Text
