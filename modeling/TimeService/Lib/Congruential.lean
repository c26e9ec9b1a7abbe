import Mathlib.Data.List.Prime
import Mathlib.NumberTheory.LucasPrimality

namespace Congruential

/-!
# Multiplicative congruential generators

A generator with multiplier `a` and modulus `m` goes from a state `x` to `a * x % m`, and each state
is also the number that is drawn.  When `m` is prime and `a` generates the multiplicative group
modulo `m`, no state but 0 comes back before all the others have been (`FullPeriod`).

* `fullPeriod_of_factors`: a full period, from the prime factors of `m - 1`;
* `state_injOn`: the states of one period are all different.
-/

/-- The next state. -/
def next (a m x : ℕ) : ℕ := a * x % m

/-- The state after so many draws. -/
def state (a m x : ℕ) : ℕ → ℕ
  | 0 => x
  | k + 1 => next a m (state a m x k)

/-- The modulus is prime, and the multiplier has the greatest order that there is. -/
structure FullPeriod (a m : ℕ) : Prop where
  prime : m.Prime
  order : orderOf (a : ZMod m) = m - 1

variable {a m x : ℕ}

/-- The states are powers of the multiplier, times the first one. -/
theorem cast_state (k : ℕ) : (state a m x k : ZMod m) = (a : ZMod m) ^ k * (x : ZMod m) := by
  induction k with
  | zero => simp [state]
  | succ k ih =>
    calc (state a m x (k + 1) : ZMod m)
        = ((a * state a m x k % m : ℕ) : ZMod m) := rfl
      _ = (a : ZMod m) * (state a m x k : ZMod m) := by rw [ZMod.natCast_mod, Nat.cast_mul]
      _ = (a : ZMod m) ^ (k + 1) * (x : ZMod m) := by rw [ih, pow_succ', mul_assoc]

/-- Drawing once, then so many times more. -/
theorem state_next (k : ℕ) : state a m (next a m x) k = state a m x (k + 1) := by
  induction k with
  | zero => rfl
  | succ k ih =>
    show next a m (state a m (next a m x) k) = next a m (state a m x (k + 1))
    rw [ih]

/-- **Full periods.** Fermat's power is 1, and no power whose exponent lacks a prime factor is. -/
theorem fullPeriod_of_factors {factors : List ℕ} (hm : 1 < m)
    (hprime : ∀ q ∈ factors, q.Prime) (hprod : factors.prod = m - 1)
    (hone : (a : ZMod m) ^ (m - 1) = 1) (hne : ∀ q ∈ factors, (a : ZMod m) ^ ((m - 1) / q) ≠ 1) :
    FullPeriod a m := by
  have hdvd : ∀ q : ℕ, q.Prime → q ∣ m - 1 → (a : ZMod m) ^ ((m - 1) / q) ≠ 1 := by
    intro q hq hdvd
    obtain ⟨p, hp, hqp⟩ := (Prime.dvd_prod_iff hq.prime).mp (hprod ▸ hdvd)
    obtain rfl := (Nat.prime_dvd_prime_iff_eq hq (hprime p hp)).mp hqp
    exact hne q hp
  exact ⟨lucas_primality m a hone hdvd,
    orderOf_eq_of_pow_and_pow_div_prime (Nat.sub_pos_of_lt hm) hone hdvd⟩

namespace FullPeriod

variable (h : FullPeriod a m)
include h

/-- From a state that is not 0 the generator does not come to 0. -/
theorem next_pos (hx : 0 < x) (hlt : x < m) : 0 < next a m x := by
  have := Fact.mk h.prime
  have ha : (a : ZMod m) ≠ 0 := by
    intro hzero
    have horder := h.order
    rw [hzero, orderOf_zero] at horder
    have := h.prime.two_le
    omega
  have hx0 : (x : ZMod m) ≠ 0 := by
    rw [Ne, ZMod.natCast_eq_zero_iff]
    exact Nat.not_dvd_of_pos_of_lt hx hlt
  rw [Nat.pos_iff_ne_zero]
  intro hzero
  have hcast : ((a * x : ℕ) : ZMod m) = 0 :=
    (ZMod.natCast_eq_zero_iff _ _).mpr (Nat.dvd_of_mod_eq_zero hzero)
  rw [Nat.cast_mul] at hcast
  exact mul_ne_zero ha hx0 hcast

theorem next_lt : next a m x < m := Nat.mod_lt _ h.prime.pos

/-- **One period.** The states of a period are all different. -/
theorem state_injOn (hx : 0 < x) (hlt : x < m) :
    Set.InjOn (state a m x) (Set.Iio (m - 1)) := by
  have := Fact.mk h.prime
  have hx0 : (x : ZMod m) ≠ 0 := by
    rw [Ne, ZMod.natCast_eq_zero_iff]
    exact Nat.not_dvd_of_pos_of_lt hx hlt
  intro i hi j hj heq
  have hcast : (a : ZMod m) ^ i * (x : ZMod m) = (a : ZMod m) ^ j * (x : ZMod m) := by
    rw [← cast_state, ← cast_state, heq]
  have hpow := mul_right_cancel₀ hx0 hcast
  rw [← h.order] at hi hj
  exact pow_injOn_Iio_orderOf hi hj hpow

end FullPeriod

end Congruential
