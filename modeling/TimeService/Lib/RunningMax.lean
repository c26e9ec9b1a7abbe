import Mathlib.Order.Bounds.Basic
import Mathlib.Order.OrderDual
import Mathlib.Data.Set.Image

namespace RunningMax

/-!
# Running maxima and minima over a list

A loop that keeps the greatest (or least) key seen so far.  Started from the first element it
computes the greatest (or least) key of the list, started from a bound of all keys the same with
the bound among them.

* `isGreatest_turn`, `isLeast_turn`: one more key;
* `isGreatest_loop`, `isLeast_loop`: the loop over a list, after what has gone before it;
* `isGreatest_greatest`, `isLeast_least`: the loop that starts from the first element;
* `isGreatest_keys_of_bound`, `isLeast_keys_of_bound`: the bound is the value only of a list that
  is empty.
-/

variable {α β : Type*}

/-- The keys of the members of a list. -/
def keys (key : α → β) (l : List α) : Set β := key '' {x | x ∈ l}

theorem mem_keys (key : α → β) (l : List α) (k : β) : k ∈ keys key l ↔ ∃ x ∈ l, key x = k :=
  Iff.rfl

theorem keys_congr (key : α → β) {l l' : List α} (h : ∀ x, x ∈ l ↔ x ∈ l') :
    keys key l = keys key l' := by
  simp only [keys, h]

@[simp] theorem keys_nil (key : α → β) : keys key [] = ∅ := by
  simp [keys]

theorem keys_cons (key : α → β) (a : α) (l : List α) :
    keys key (a :: l) = insert (key a) (keys key l) := by
  ext k
  simp [mem_keys, eq_comm]

variable [LinearOrder β]

/-- The loop that keeps the greatest key, from the accumulator `m` on. -/
def greatest (key : α → β) (m : β) (l : List α) : β :=
  l.foldl (fun m x => if m < key x then key x else m) m

/-- The loop that keeps the least key, from the accumulator `m` on. -/
def least (key : α → β) (m : β) (l : List α) : β :=
  l.foldl (fun m x => if key x < m then key x else m) m

@[simp] theorem greatest_nil (key : α → β) (m : β) : greatest key m [] = m := rfl

@[simp] theorem greatest_cons (key : α → β) (m : β) (a : α) (l : List α) :
    greatest key m (a :: l) = greatest key (if m < key a then key a else m) l := rfl

@[simp] theorem least_nil (key : α → β) (m : β) : least key m [] = m := rfl

@[simp] theorem least_cons (key : α → β) (m : β) (a : α) (l : List α) :
    least key m (a :: l) = least key (if key a < m then key a else m) l := rfl

/-- One turn of the loop, `s` being the keys that it has seen. -/
theorem isGreatest_turn {s : Set β} {m : β} (hm : IsGreatest s m) (k : β) :
    IsGreatest (insert k s) (if m < k then k else m) := by
  have hmax : (if m < k then k else m) = max k m := by
    rw [max_comm, max_def_lt]
  rw [hmax]
  exact hm.insert k

/-- The loop from any accumulator, `s` being what it has been over. -/
theorem isGreatest_loop (key : α → β) {s : Set β} {m : β} (hm : IsGreatest s m) (l : List α) :
    IsGreatest (s ∪ keys key l) (greatest key m l) := by
  induction l generalizing s m with
  | nil => simpa using hm
  | cons a l ih =>
    rw [greatest_cons]
    have hstep := ih (isGreatest_turn hm (key a))
    rwa [Set.insert_union, ← Set.union_insert, ← keys_cons] at hstep

/-- The loop that starts from the first element. -/
theorem isGreatest_greatest (key : α → β) (a : α) (l : List α) :
    IsGreatest (keys key (a :: l)) (greatest key (key a) l) := by
  rw [keys_cons, ← Set.singleton_union]
  exact isGreatest_loop key isGreatest_singleton l

/-- A loop that starts from a bound below all keys finds the greatest of them, when there are
    any. -/
theorem isGreatest_keys_of_bound {key : α → β} {l : List α} {bound m : β}
    (hm : IsGreatest (insert bound (keys key l)) m) (hbound : ∀ a ∈ l, bound ≤ key a)
    (hne : l ≠ []) : IsGreatest (keys key l) m := by
  refine ⟨?_, fun k hk => hm.2 (Set.mem_insert_of_mem bound hk)⟩
  rcases hm.1 with rfl | hkey
  · -- no key is above the bound, so the first one is the bound itself
    obtain ⟨a, as, rfl⟩ := List.exists_cons_of_ne_nil hne
    refine ⟨a, by simp, le_antisymm (hm.2 (Set.mem_insert_of_mem m ⟨a, by simp, rfl⟩)) ?_⟩
    exact hbound a (by simp)
  · exact hkey

/-! ### The same for the least key -/

theorem isLeast_turn {s : Set β} {m : β} (hm : IsLeast s m) (k : β) :
    IsLeast (insert k s) (if k < m then k else m) :=
  @isGreatest_turn βᵒᵈ _ s m hm k

theorem isLeast_loop (key : α → β) {s : Set β} {m : β} (hm : IsLeast s m) (l : List α) :
    IsLeast (s ∪ keys key l) (least key m l) :=
  @isGreatest_loop α βᵒᵈ _ key s m hm l

theorem isLeast_least (key : α → β) (a : α) (l : List α) :
    IsLeast (keys key (a :: l)) (least key (key a) l) :=
  @isGreatest_greatest α βᵒᵈ _ key a l

theorem isLeast_keys_of_bound {key : α → β} {l : List α} {bound m : β}
    (hm : IsLeast (insert bound (keys key l)) m) (hbound : ∀ a ∈ l, key a ≤ bound)
    (hne : l ≠ []) : IsLeast (keys key l) m :=
  @isGreatest_keys_of_bound α βᵒᵈ _ key l bound m hm hbound hne

end RunningMax
