import Mathlib.Data.Nat.Digits.Lemmas

namespace Bytes

/-!
# Numbers and their bytes

A list of bytes as a number, in both orders, and the bytes of a number.  The value of a list in
one order is that of its reverse in the other (`ofBE_reverse`), and lists of one length with one
value are equal (`ofLE_inj`, `ofBE_inj`).
-/

/-- The number with these bytes, the least significant one first. -/
def ofLE (bytes : List UInt8) : ℕ := Nat.ofDigits 256 (bytes.map UInt8.toNat)

/-- The number with these bytes, the most significant one first. -/
def ofBE (bytes : List UInt8) : ℕ := bytes.foldl (fun value byte => 256 * value + byte.toNat) 0

@[simp] theorem ofLE_cons (byte : UInt8) (bytes : List UInt8) :
    ofLE (byte :: bytes) = byte.toNat + 256 * ofLE bytes := by
  simp [ofLE, Nat.ofDigits_cons]

theorem ofLE_lt (bytes : List UInt8) : ofLE bytes < 256 ^ bytes.length := by
  have hdigits : ∀ d ∈ bytes.map UInt8.toNat, d < 256 := by
    intro d hd
    obtain ⟨byte, _, rfl⟩ := List.mem_map.mp hd
    exact byte.toNat_lt
  have hlt := Nat.ofDigits_lt_base_pow_length (by norm_num) hdigits
  rwa [List.length_map] at hlt

theorem ofLE_inj {bytes bytes' : List UInt8} (hlength : bytes.length = bytes'.length)
    (h : ofLE bytes = ofLE bytes') : bytes = bytes' := by
  induction bytes generalizing bytes' with
  | nil => exact (List.length_eq_zero_iff.mp hlength.symm).symm
  | cons byte bytes ih =>
    have hpos : 0 < bytes'.length := by
      rw [← hlength]
      simp
    obtain ⟨byte', bytes', rfl⟩ := List.exists_cons_of_length_pos hpos
    rw [ofLE_cons, ofLE_cons] at h
    have hbyte := byte.toNat_lt
    have hbyte' := byte'.toNat_lt
    have hfirst : byte = byte' := UInt8.toNat_inj.mp (by omega)
    have hrest : bytes = bytes' := ih (by simpa using hlength) (by omega)
    rw [hfirst, hrest]

/-- One byte more at the end. -/
theorem ofBE_append (bytes : List UInt8) (byte : UInt8) :
    ofBE (bytes ++ [byte]) = 256 * ofBE bytes + byte.toNat := by
  simp [ofBE]

/-- Reading a list from its other end. -/
theorem ofBE_reverse (bytes : List UInt8) : ofBE bytes.reverse = ofLE bytes := by
  induction bytes with
  | nil => rfl
  | cons byte bytes ih =>
    rw [List.reverse_cons, ofBE_append, ih, ofLE_cons]
    omega

theorem ofBE_inj {bytes bytes' : List UInt8} (hlength : bytes.length = bytes'.length)
    (h : ofBE bytes = ofBE bytes') : bytes = bytes' := by
  rw [← bytes.reverse_reverse, ← bytes'.reverse_reverse, ofBE_reverse, ofBE_reverse] at h
  exact List.reverse_injective (ofLE_inj (by simpa using hlength) h)

/-- The last `width` bytes of a number, the least significant one first. -/
def toLE (width n : ℕ) : List UInt8 := (List.range width).map fun i => UInt8.ofNat (n / 256 ^ i)

theorem toLE_succ (width n : ℕ) :
    toLE (width + 1) n = UInt8.ofNat n :: toLE width (n / 256) := by
  have hdiv : ∀ i, n / 256 ^ (i + 1) = n / 256 / 256 ^ i := fun i => by
    rw [pow_succ', Nat.div_div_eq_div_mul]
  simp [toLE, List.range_succ_eq_map, Function.comp_def, hdiv]

/-- The bytes of a number have its value. -/
theorem ofLE_toLE {width n : ℕ} (h : n < 256 ^ width) : ofLE (toLE width n) = n := by
  induction width generalizing n with
  | zero =>
    have hzero : n = 0 := by simpa using h
    rw [hzero]
    rfl
  | succ width ih =>
    have hdiv : n / 256 < 256 ^ width := by
      rw [pow_succ] at h
      omega
    rw [toLE_succ, ofLE_cons, ih hdiv]
    show n % 256 + 256 * (n / 256) = n
    exact Nat.mod_add_div n 256

end Bytes
