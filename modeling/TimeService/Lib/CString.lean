import Mathlib.Data.List.Basic
import Mathlib.Data.List.TakeWhile

namespace CString

/-!
# Zero-terminated strings in buffers of fixed size

A program that grows a string in place in a buffer that was filled with zeros writes no terminator
of its own: the zero behind the string is what is left of the filling.

* `Buffer.text`: the string at the start of a buffer, if it ends inside the buffer;
* `Holds`: the buffer holds a string and zeros behind it;
* `Holds.set`: one more byte, as long as there is room;
* `Holds.text_eq`: the string ends inside the buffer exactly when it does not fill it.
-/

/-- A string as a pointer to its first byte stands for it: it has no zero before its end. -/
structure Text where
  bytes : List UInt8
  zero_notMem : 0 ∉ bytes

variable {n : ℕ}

/-- A buffer of `n` bytes. -/
abbrev Buffer (n : ℕ) := Vector UInt8 n

/-- `char buffer[n] = { '\0' }`. -/
def Buffer.zeroed (n : ℕ) : Buffer n := Vector.replicate n 0

/-- The string that starts at the first byte of the buffer.  Without a zero in the buffer there is
    none: reading it runs past the end. -/
def Buffer.text (buffer : Buffer n) : Option (List UInt8) :=
  if 0 ∈ buffer.toList then some (buffer.toList.takeWhile (· ≠ 0)) else none

/-- The buffer holds the string `p`, and zeros from there on. -/
structure Holds (buffer : Buffer n) (p : List UInt8) : Prop where
  zero_notMem : 0 ∉ p
  length_le : p.length ≤ n
  toList_eq : buffer.toList = p ++ List.replicate (n - p.length) 0

theorem holds_zeroed (n : ℕ) : Holds (Buffer.zeroed n) [] where
  zero_notMem := by simp
  length_le := by simp
  toList_eq := by simp [Buffer.zeroed]

/-- Writing the byte behind the string appends it. -/
theorem Holds.set {buffer : Buffer n} {p : List UInt8} (h : Holds buffer p) {c : UInt8}
    (hc : c ≠ 0) (hroom : p.length < n) : Holds (buffer.set p.length c) (p ++ [c]) where
  zero_notMem := by
    simpa using ⟨h.zero_notMem, hc.symm⟩
  length_le := by
    rw [List.length_append, List.length_singleton]
    exact hroom
  toList_eq := by
    -- the first of the zeros behind the string makes place for the byte
    have hzeros : List.replicate (n - p.length) (0 : UInt8)
        = 0 :: List.replicate (n - (p ++ [c]).length) 0 := by
      rw [← List.replicate_succ, List.length_append, List.length_singleton]
      congr 1
      omega
    rw [Vector.toList_set, h.toList_eq, hzeros, List.set_append_right _ _ (Nat.le_refl _)]
    simp

/-- The string ends inside the buffer exactly when it leaves room for a zero. -/
theorem Holds.text_eq {buffer : Buffer n} {p : List UInt8} (h : Holds buffer p) :
    buffer.text = if p.length < n then some p else none := by
  have hmem : 0 ∈ buffer.toList ↔ p.length < n := by
    rw [h.toList_eq, List.mem_append, List.mem_replicate]
    constructor
    · rintro (hp | ⟨hne, _⟩)
      · exact absurd hp h.zero_notMem
      · omega
    · intro hlt
      exact .inr ⟨by omega, rfl⟩
  unfold Buffer.text
  by_cases hlt : p.length < n
  · rw [if_pos (hmem.mpr hlt), if_pos hlt, h.toList_eq]
    congr 1
    have hbytes : ∀ c ∈ p, decide (c ≠ 0) = true := by
      intro c hc
      rw [decide_eq_true_eq]
      rintro rfl
      exact h.zero_notMem hc
    have hzeros : (List.replicate (n - p.length) (0 : UInt8)).takeWhile (· ≠ 0) = [] := by
      simp
    rw [List.takeWhile_append_of_pos hbytes, hzeros, List.append_nil]
  · rw [if_neg (mt hmem.mp hlt), if_neg hlt]

end CString
