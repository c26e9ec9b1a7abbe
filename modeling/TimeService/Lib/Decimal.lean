import Mathlib.Data.Nat.Notation
import Mathlib.Data.List.Basic

namespace Decimal

/-!
# Decimal numbers

Texts of decimal digits as numbers (`read`).  What is printed is read back (`read_toDigits`).
-/

/-- The number that a text of decimal digits denotes.  The empty text and a text with another
    character denote none. -/
def read (text : List Char) : Option ℕ :=
  if text ≠ [] ∧ text.all Char.isDigit then some (Nat.ofDigitChars 10 text 0) else none

theorem read_eq_some_iff {text : List Char} {n : ℕ} :
    read text = some n
      ↔ text ≠ [] ∧ text.all Char.isDigit = true ∧ Nat.ofDigitChars 10 text 0 = n := by
  unfold read
  split
  · rename_i h
    simp [h]
  · rename_i h
    simp only [reduceCtorEq, false_iff]
    exact fun h' => h ⟨h'.1, h'.2.1⟩

/-- A text that begins with something else than a digit is no number. -/
theorem read_cons_of_not_isDigit {c : Char} (h : c.isDigit = false) (text : List Char) :
    read (c :: text) = none := by
  unfold read
  rw [if_neg]
  simp [h]

/-- What is printed is read back. -/
@[simp] theorem read_toDigits (n : ℕ) : read (Nat.toDigits 10 n) = some n := by
  rw [read_eq_some_iff]
  refine ⟨Nat.toDigits_ne_nil, ?_, Nat.ofDigitChars_ten_toDigits⟩
  rw [List.all_eq_true]
  exact fun c hc => Nat.isDigit_of_mem_toDigits (by decide) (by decide) hc

end Decimal
