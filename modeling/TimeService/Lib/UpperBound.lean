import Mathlib.Data.List.Basic
import Mathlib.Data.List.Perm.Basic
import Mathlib.Order.Lattice

namespace UpperBound

/-!
# Insertion at the upper bound of a key

The binary search of the C++ `std::upper_bound` over a list, and the insertion of an element
at the position it answers.  The search is the loop of the standard libraries (halve the
remaining length, probe the middle), so on a list that is not sorted it answers the position
that loop answers.

* `upperBound_spec`: on a list sorted by the key, every element before the answered position
  has a key at most the probe and every element from it on has a greater one;
* `insertUpper_perm`: the insertion adds exactly the new element, sorted list or not;
* `insertUpper_append`: what comes first and is not above the new element stays in front of it,
  however the rest is ordered;
* `insertUpper_sorted`: a sorted list stays sorted.
-/

variable {α β : Type*}

/-- The search loop: `first` is the start of the remaining range and `len` its length.  `after x`
    says that the probe compares below `x`.  The range at least halves in each round, so the
    length of the list is fuel enough. -/
def searchFrom (after : α → Bool) (l : List α) : ℕ → ℕ → ℕ → ℕ
  | 0, first, _ => first
  | fuel + 1, first, len =>
    if len = 0 then first
    else
      match l[first + len / 2]? with
      | none => first
      | some x =>
        if after x then searchFrom after l fuel first (len / 2)
        else searchFrom after l fuel (first + len / 2 + 1) (len - len / 2 - 1)

/-- The answered position is behind a prefix on which nothing is `after`. -/
theorem le_searchFrom (after : α → Bool) (l : List α) {m : ℕ}
    (hlow : ∀ i (hi : i < l.length), i < m → after l[i] = false) (fuel first len : ℕ)
    (hfuel : len ≤ fuel) (hlen : first + len ≤ l.length) (hm : m ≤ first + len) :
    m ≤ searchFrom after l fuel first len := by
  induction fuel generalizing first len with
  | zero =>
    rw [searchFrom]
    omega
  | succ fuel ih =>
    rw [searchFrom]
    by_cases hzero : len = 0
    · rw [if_pos hzero]
      omega
    · have hmid : first + len / 2 < l.length := by omega
      simp only [if_neg hzero, List.getElem?_eq_getElem hmid]
      by_cases hafter : after l[first + len / 2]
      · rw [if_pos hafter]
        apply ih first (len / 2) (by omega) (by omega)
        -- the probe is `after`, so the prefix ends before it
        by_contra hlt
        rw [hlow _ hmid (by omega)] at hafter
        cases hafter
      · rw [if_neg hafter]
        exact ih (first + len / 2 + 1) (len - len / 2 - 1) (by omega) (by omega) (by omega)

/-- The search loop separates the list: with everything before the range not `after` and
    everything behind it `after`, the answered position splits the whole list so.  The
    invariant is the one of the range, and `after` is monotone along the list. -/
theorem searchFrom_spec (after : α → Bool) (l : List α)
    (hmono : ∀ i j (hi : i < l.length) (hj : j < l.length), i ≤ j → after l[i] → after l[j])
    (fuel first len : ℕ) (hfuel : len ≤ fuel) (hlen : first + len ≤ l.length)
    (hlow : ∀ i (hi : i < l.length), i < first → after l[i] = false)
    (hhigh : ∀ i (hi : i < l.length), first + len ≤ i → after l[i] = true) :
    (∀ i (hi : i < l.length), i < searchFrom after l fuel first len → after l[i] = false) ∧
      (∀ i (hi : i < l.length), searchFrom after l fuel first len ≤ i → after l[i] = true) := by
  induction fuel generalizing first len with
  | zero =>
    have hzero : len = 0 := by omega
    subst hzero
    exact ⟨hlow, hhigh⟩
  | succ fuel ih =>
    rw [searchFrom]
    by_cases hzero : len = 0
    · subst hzero
      exact ⟨hlow, hhigh⟩
    · have hmid : first + len / 2 < l.length := by omega
      simp only [if_neg hzero, List.getElem?_eq_getElem hmid]
      by_cases hafter : after l[first + len / 2]
      · -- the probe and everything behind it is `after`: the range ends in front of it
        rw [if_pos hafter]
        apply ih first (len / 2) (by omega) (by omega) hlow
        intro i hi hle
        exact hmono _ _ hmid hi hle hafter
      · -- the probe and everything in front of it is not: the range starts behind it
        rw [if_neg hafter]
        apply ih (first + len / 2 + 1) (len - len / 2 - 1) (by omega) (by omega)
        · intro i hi hlt
          by_contra hne
          exact hafter (hmono _ _ hi hmid (by omega) (by simpa using hne))
        · intro i hi hle
          exact hhigh i hi (by omega)

variable [LinearOrder β]

/-- `std::upper_bound` of `v` in a list compared by `key`. -/
def upperBound (key : α → β) (l : List α) (v : β) : ℕ :=
  searchFrom (fun x => decide (v < key x)) l l.length 0 l.length

/-- On a list sorted by `key` the upper bound splits it into the elements not above `v` and the
    elements above `v`. -/
theorem upperBound_spec (key : α → β) (l : List α) (v : β)
    (hsorted : l.Pairwise (fun a b => key a ≤ key b)) :
    (∀ a ∈ l.take (upperBound key l v), key a ≤ v) ∧
      (∀ a ∈ l.drop (upperBound key l v), v < key a) := by
  have hmono : ∀ i j (hi : i < l.length) (hj : j < l.length), i ≤ j →
      decide (v < key l[i]) = true → decide (v < key l[j]) = true := by
    intro i j hi hj hij hlt
    rw [decide_eq_true_eq] at hlt ⊢
    rcases Nat.eq_or_lt_of_le hij with heq | hlt'
    · subst heq; exact hlt
    · exact lt_of_lt_of_le hlt (List.pairwise_iff_getElem.mp hsorted i j hi hj hlt')
  obtain ⟨hlow, hhigh⟩ := searchFrom_spec (fun x => decide (v < key x)) l hmono l.length 0
    l.length (Nat.le_refl _) (by omega) (by omega) (by omega)
  constructor
  · intro a ha
    obtain ⟨i, hi, rfl⟩ := List.mem_iff_getElem.mp ha
    rw [List.length_take] at hi
    have := hlow i (by omega) (by simpa [upperBound] using (Nat.lt_min.mp hi).1)
    simpa [List.getElem_take] using this
  · intro a ha
    obtain ⟨i, hi, rfl⟩ := List.mem_iff_getElem.mp ha
    rw [List.length_drop] at hi
    have := hhigh (upperBound key l v + i) (by omega) (by simp [upperBound])
    simpa [List.getElem_drop] using this

/-- `list.insert(upper_bound(list, x), x)`. -/
def insertUpper (key : α → β) (l : List α) (x : α) : List α :=
  l.take (upperBound key l (key x)) ++ x :: l.drop (upperBound key l (key x))

/-- The insertion adds exactly the new element, whether or not the list is sorted. -/
theorem insertUpper_perm (key : α → β) (l : List α) (x : α) :
    (insertUpper key l x).Perm (x :: l) := by
  have hmiddle : (insertUpper key l x).Perm
      (x :: (l.take (upperBound key l (key x)) ++ l.drop (upperBound key l (key x)))) :=
    List.perm_middle
  rwa [List.take_append_drop] at hmiddle

/-- The new element goes behind a front that is not above it. -/
theorem insertUpper_append (key : α → β) {front rest : List α} {x : α}
    (hfront : ∀ a ∈ front, key a ≤ key x) :
    ∃ rest', insertUpper key (front ++ rest) x = front ++ rest' ∧ rest'.Perm (x :: rest) := by
  have hlow : ∀ i (hi : i < (front ++ rest).length), i < front.length →
      decide (key x < key (front ++ rest)[i]) = false := by
    intro i hi hlt
    rw [List.getElem_append_left hlt]
    exact decide_eq_false (not_lt_of_ge (hfront _ (List.getElem_mem hlt)))
  have hle : front.length ≤ upperBound key (front ++ rest) (key x) :=
    le_searchFrom (fun y => decide (key x < key y)) (front ++ rest) hlow _ 0 _ (Nat.le_refl _)
      (by omega) (by simp)
  have hsplit : insertUpper key (front ++ rest) x
      = front ++ (rest.take (upperBound key (front ++ rest) (key x) - front.length)
        ++ x :: rest.drop (upperBound key (front ++ rest) (key x) - front.length)) := by
    rw [insertUpper, List.take_append, List.drop_append, List.take_of_length_le hle,
      List.drop_of_length_le hle, List.nil_append, List.append_assoc]
  refine ⟨_, hsplit, ?_⟩
  have hperm := insertUpper_perm key (front ++ rest) x
  rw [hsplit] at hperm
  exact (List.perm_append_left_iff front).mp (hperm.trans List.perm_middle.symm)

/-- A list sorted by `key` stays sorted. -/
theorem insertUpper_sorted (key : α → β) (l : List α) (x : α)
    (hsorted : l.Pairwise (fun a b => key a ≤ key b)) :
    (insertUpper key l x).Pairwise (fun a b => key a ≤ key b) := by
  obtain ⟨hlow, hhigh⟩ := upperBound_spec key l (key x) hsorted
  have hsplit := hsorted
  rw [← List.take_append_drop (upperBound key l (key x)) l, List.pairwise_append] at hsplit
  obtain ⟨htake, hdrop, hcross⟩ := hsplit
  rw [insertUpper, List.pairwise_append]
  refine ⟨htake, List.pairwise_cons.mpr ⟨fun a ha => (hhigh a ha).le, hdrop⟩, ?_⟩
  intro a ha b hb
  rcases List.mem_cons.mp hb with rfl | hb
  · exact hlow a ha
  · exact hcross a ha b hb

end UpperBound
