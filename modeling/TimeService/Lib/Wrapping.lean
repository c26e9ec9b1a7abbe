import Mathlib.Data.BitVec

namespace Wrapping

/-!
# Words that hold integers

Machine arithmetic on words of `w` bits is arithmetic modulo `2 ^ w`.  A word `Holds` an integer
when it is the residue of that integer; addition, subtraction and multiplication of words follow
those of the integers held, however often the words wrap on the way.  What is read back at the
end depends on the integer alone:

* `Holds.toInt_of_fits`: an integer in the range of the signed reading is read back unchanged;
* `Holds.le_toInt_iff`: the signed reading is not below the integer exactly when the integer is
  below the upper end of the range.
-/

variable {w : ℕ}

/-- The word is the residue of the integer. -/
def Holds (x : BitVec w) (v : ℤ) : Prop := x = BitVec.ofInt w v

theorem holds_toInt (x : BitVec w) : Holds x x.toInt := BitVec.ofInt_toInt.symm

theorem holds_toNat (x : BitVec w) : Holds x x.toNat := by
  rw [Holds, BitVec.ofInt_natCast, BitVec.ofNat_toNat, BitVec.setWidth_eq]

variable {x y : BitVec w} {u v : ℤ}

theorem Holds.add (hx : Holds x u) (hy : Holds y v) : Holds (x + y) (u + v) := by
  rw [Holds, BitVec.ofInt_add, ← hx, ← hy]

theorem Holds.mul (hx : Holds x u) (hy : Holds y v) : Holds (x * y) (u * v) := by
  rw [Holds, BitVec.ofInt_mul, ← hx, ← hy]

theorem Holds.sub (hx : Holds x u) (hy : Holds y v) : Holds (x - y) (u - v) := by
  rw [Holds, Int.sub_eq_add_neg, BitVec.ofInt_add, BitVec.ofInt_neg, ← hx, ← hy,
    BitVec.sub_eq_add_neg]

/-! ### Reading back -/

/-- The signed reading is the residue around zero. -/
theorem Holds.toInt_eq (h : Holds x v) : x.toInt = v.bmod (2 ^ w) := by
  rw [h, BitVec.toInt_ofInt]

private theorem two_pow_eq (hw : 0 < w) : (2 : ℤ) ^ w = 2 * 2 ^ (w - 1) := by
  rw [mul_comm, ← pow_succ, Nat.sub_add_cancel hw]

theorem Holds.toInt_of_fits (h : Holds x v) (hw : 0 < w) (hlow : -2 ^ (w - 1) ≤ v)
    (hhigh : v < 2 ^ (w - 1)) : x.toInt = v := by
  have hpow := two_pow_eq hw
  rw [h.toInt_eq]
  refine Int.bmod_eq_of_le_mul_two ?_ ?_
  · push_cast
    omega
  · push_cast
    omega

/-- Wrapping takes an integer above the range of the signed reading down, and all others up if
    anywhere. -/
theorem Holds.le_toInt_iff (h : Holds x v) (hw : 0 < w) : v ≤ x.toInt ↔ v < 2 ^ (w - 1) := by
  have hrange := And.intro (BitVec.le_toInt x) (BitVec.toInt_lt (x := x))
  constructor
  · intro hle
    omega
  · intro hlt
    by_cases hlow : -2 ^ (w - 1) ≤ v
    · rw [h.toInt_of_fits hw hlow hlt]
    · omega

end Wrapping
