import Mathlib.Data.List.Basic
import Mathlib.Data.List.Pairwise
import Mathlib.Tactic.Common

namespace Ledger

/-!
# The ledger of a store that holds back

Items arrive one after the other.  Each is delivered at once or held back under its key, and a
held item is later delivered or discarded together with all held items of a choice of keys.
The ledger lists the items in the order of arrival, each with its fate; a discarded item keeps
the reason.

* `heldOf`, `deliveredOf`: what is held under a key, what was delivered of a key, both in the
  order of arrival;
* `settle`: the held items of some keys take a new fate;
* `InOrder`: no item was delivered past a held one of its key.  Then a release delivers in
  order (`deliveredOf_settle_delivered`), first in first out (`InOrder.sublist`).
-/

/-- What has become of an item. -/
inductive Fate (ρ : Type*)
  | delivered
  | held
  | discarded (reason : ρ)
deriving DecidableEq, Repr

variable {α κ ρ : Type*}

def Fate.isDelivered : Fate ρ → Bool
  | .delivered => true
  | _ => false

def Fate.isHeld : Fate ρ → Bool
  | .held => true
  | _ => false

@[simp] theorem Fate.isDelivered_delivered : (Fate.delivered : Fate ρ).isDelivered = true := rfl
@[simp] theorem Fate.isDelivered_held : (Fate.held : Fate ρ).isDelivered = false := rfl
@[simp] theorem Fate.isDelivered_discarded (r : ρ) : (Fate.discarded r).isDelivered = false := rfl
@[simp] theorem Fate.isHeld_delivered : (Fate.delivered : Fate ρ).isHeld = false := rfl
@[simp] theorem Fate.isHeld_held : (Fate.held : Fate ρ).isHeld = true := rfl
@[simp] theorem Fate.isHeld_discarded (r : ρ) : (Fate.discarded r).isHeld = false := rfl

variable (key : α → κ)

/-- The held items of the selected keys take a new fate. -/
def settle (select : κ → Bool) (fate : Fate ρ) (l : List (α × Fate ρ)) : List (α × Fate ρ) :=
  l.map fun e => if e.2.isHeld && select (key e.1) then (e.1, fate) else e

/-- No item was delivered past a held one of its key. -/
def InOrder (l : List (α × Fate ρ)) : Prop :=
  l.Pairwise fun x y => key x.1 = key y.1 → x.2.isHeld = true → y.2.isDelivered = false

variable {key}

/-- Settling changes no item and no order. -/
@[simp] theorem settle_map_fst (select : κ → Bool) (fate : Fate ρ) (l : List (α × Fate ρ)) :
    (settle key select fate l).map Prod.fst = l.map Prod.fst := by
  unfold settle
  rw [List.map_map]
  apply List.map_congr_left
  intro e _
  simp only [Function.comp_apply]
  split <;> rfl

theorem settle_cons (select : κ → Bool) (fate : Fate ρ) (e : α × Fate ρ)
    (l : List (α × Fate ρ)) :
    settle key select fate (e :: l)
      = (if e.2.isHeld && select (key e.1) then (e.1, fate) else e) :: settle key select fate l :=
  rfl

theorem InOrder.settle {l : List (α × Fate ρ)} (h : InOrder key l) (select : κ → Bool)
    {fate : Fate ρ} (hfate : fate.isHeld = false) : InOrder key (settle key select fate l) := by
  unfold InOrder Ledger.settle
  rw [List.pairwise_map]
  apply h.imp
  rintro ⟨a, f⟩ ⟨b, g⟩ hxy hkey hheld
  have hsame : key a = key b := by
    split at hkey <;> split at hkey <;> exact hkey
  -- a held item that stays held is one whose key, also that of the later item, is not selected
  cases hs : select (key b) <;> cases f <;> cases g <;> simp_all

/-- What is settled with a fate was held before, everything else is as it was. -/
theorem getElem?_settle {select : κ → Bool} {fate : Fate ρ} {l : List (α × Fate ρ)} {i : ℕ}
    {e : α × Fate ρ} (h : (settle key select fate l)[i]? = some e) :
    l[i]? = some e ∨
      (e.2 = fate ∧ l[i]? = some (e.1, .held) ∧ select (key e.1) = true) := by
  unfold settle at h
  rw [List.getElem?_map] at h
  obtain ⟨⟨a, f⟩, hi, he⟩ := Option.map_eq_some_iff.mp h
  split at he
  · rename_i hsel
    rw [Bool.and_eq_true] at hsel
    right
    subst he
    cases f <;> simp_all
  · left
    rw [hi, he]

/-! ### What is held and what was delivered -/

variable [DecidableEq κ]

variable (key) in
/-- The items held under the key `k`. -/
def heldOf (k : κ) (l : List (α × Fate ρ)) : List α :=
  (l.filter fun e => e.2.isHeld && key e.1 = k).map Prod.fst

variable (key) in
/-- The items of the key `k` that were delivered. -/
def deliveredOf (k : κ) (l : List (α × Fate ρ)) : List α :=
  (l.filter fun e => e.2.isDelivered && key e.1 = k).map Prod.fst

theorem heldOf_cons (k : κ) (e : α × Fate ρ) (l : List (α × Fate ρ)) :
    heldOf key k (e :: l)
      = (if e.2.isHeld && key e.1 = k then [e.1] else []) ++ heldOf key k l := by
  unfold heldOf
  rw [List.filter_cons]
  split <;> simp

theorem deliveredOf_cons (k : κ) (e : α × Fate ρ) (l : List (α × Fate ρ)) :
    deliveredOf key k (e :: l)
      = (if e.2.isDelivered && key e.1 = k then [e.1] else []) ++ deliveredOf key k l := by
  unfold deliveredOf
  rw [List.filter_cons]
  split <;> simp

theorem heldOf_append (k : κ) (l l' : List (α × Fate ρ)) :
    heldOf key k (l ++ l') = heldOf key k l ++ heldOf key k l' := by
  simp [heldOf, List.filter_append]

theorem deliveredOf_append (k : κ) (l l' : List (α × Fate ρ)) :
    deliveredOf key k (l ++ l') = deliveredOf key k l ++ deliveredOf key k l' := by
  simp [deliveredOf, List.filter_append]

theorem mem_heldOf {k : κ} {l : List (α × Fate ρ)} {a : α} :
    a ∈ heldOf key k l ↔ (a, Fate.held) ∈ l ∧ key a = k := by
  unfold heldOf
  rw [List.mem_map]
  constructor
  · rintro ⟨⟨b, f⟩, he, rfl⟩
    obtain ⟨hmem, htest⟩ := List.mem_filter.mp he
    cases f <;> simp_all
  · rintro ⟨hmem, rfl⟩
    exact ⟨(a, .held), List.mem_filter.mpr ⟨hmem, by simp⟩, rfl⟩

/-- Settled items are no longer held, all others still are. -/
theorem heldOf_settle {select : κ → Bool} {fate : Fate ρ} (hfate : fate.isHeld = false) (k : κ)
    (l : List (α × Fate ρ)) :
    heldOf key k (settle key select fate l) = if select k then [] else heldOf key k l := by
  induction l with
  | nil => simp [settle, heldOf]
  | cons e l ih =>
    obtain ⟨a, f⟩ := e
    rw [settle_cons, heldOf_cons, heldOf_cons, ih]
    by_cases hk : key a = k
    · subst hk
      cases f <;> cases select (key a) <;> simp [hfate]
    · -- an item of another key is held under `k` neither before nor after
      cases f <;> cases select (key a) <;> simp [hk]

/-- Discarding delivers nothing. -/
theorem deliveredOf_settle_discarded (select : κ → Bool) (r : ρ) (k : κ)
    (l : List (α × Fate ρ)) :
    deliveredOf key k (settle key select (.discarded r) l) = deliveredOf key k l := by
  induction l with
  | nil => rfl
  | cons e l ih =>
    obtain ⟨a, f⟩ := e
    rw [settle_cons, deliveredOf_cons, deliveredOf_cons, ih]
    cases f <;> cases select (key a) <;> simp

/-- Nothing of its key was delivered after a held item. -/
theorem InOrder.deliveredOf_eq_nil {l : List (α × Fate ρ)} {a : α}
    (h : InOrder key ((a, Fate.held) :: l)) : deliveredOf key (key a) l = [] := by
  unfold deliveredOf
  rw [List.map_eq_nil_iff, List.filter_eq_nil_iff]
  intro x hx htest
  rw [Bool.and_eq_true, decide_eq_true_eq] at htest
  rw [(List.pairwise_cons.mp h).1 x hx htest.2.symm rfl] at htest
  cases htest.1

/-- **Release in order.** When no item was delivered past a held one, releasing the held items of
    some keys appends them to what was delivered of these keys. -/
theorem deliveredOf_settle_delivered {l : List (α × Fate ρ)} (h : InOrder key l)
    (select : κ → Bool) (k : κ) :
    deliveredOf key k (settle key select .delivered l)
      = if select k then deliveredOf key k l ++ heldOf key k l else deliveredOf key k l := by
  induction l with
  | nil => simp [settle, heldOf, deliveredOf]
  | cons e l ih =>
    have htail : InOrder key l := (List.pairwise_cons.mp h).2
    obtain ⟨a, f⟩ := e
    rw [settle_cons, deliveredOf_cons, deliveredOf_cons, heldOf_cons, ih htail]
    by_cases hk : key a = k
    · subst hk
      cases f with
      | delivered => cases select (key a) <;> simp
      | discarded r => cases select (key a) <;> simp
      | held =>
        have hnone := h.deliveredOf_eq_nil
        cases select (key a) <;> simp [hnone]
    · cases f <;> cases select (key a) <;> cases select k <;> simp [hk]

/-- A new item that is delivered finds nothing of its key held. -/
theorem InOrder.append {l : List (α × Fate ρ)} (h : InOrder key l) {a : α} {fate : Fate ρ}
    (hfate : fate.isDelivered = true → heldOf key (key a) l = []) :
    InOrder key (l ++ [(a, fate)]) := by
  refine List.pairwise_append.mpr ⟨h, List.pairwise_singleton _ _, ?_⟩
  rintro ⟨b, f⟩ hb y hy hkey hheld
  obtain rfl := List.mem_singleton.mp hy
  cases f <;> simp at hheld
  by_contra hdel
  have hnil := hfate (by simpa using hdel)
  have hmem : b ∈ heldOf key (key a) l := mem_heldOf.mpr ⟨hb, hkey⟩
  rw [hnil] at hmem
  cases hmem

/-- **First in, first out.** When no item was delivered past a held one, the items of a key that
    were delivered, followed by those that are held, are items of the key in the order of arrival,
    the discarded ones left out. -/
theorem InOrder.sublist {l : List (α × Fate ρ)} (h : InOrder key l) (k : κ) :
    (deliveredOf key k l ++ heldOf key k l).Sublist
      ((l.map Prod.fst).filter fun a => key a = k) := by
  induction l with
  | nil => exact List.Sublist.refl _
  | cons e l ih =>
    have htail : InOrder key l := (List.pairwise_cons.mp h).2
    obtain ⟨a, f⟩ := e
    rw [deliveredOf_cons, heldOf_cons, List.map_cons, List.filter_cons]
    by_cases hk : key a = k
    · subst hk
      cases f with
      | delivered => simpa using ih htail
      | discarded r => simpa using (ih htail).cons a
      | held =>
        have hnone := h.deliveredOf_eq_nil
        have hrest := ih htail
        rw [hnone] at hrest ⊢
        simpa using hrest
    · simpa [hk] using ih htail

end Ledger
