import Mathlib.Data.Finset.Card
import Mathlib.Data.Finset.Range
import Mathlib.Data.List.Range

/-!
# Handles

A table of handles below a limit, as a kernel keeps it for the descriptors of a process: the least
handle that is not in use is given out, and a handle may be closed.  The bound is part of the table.

* `Table.alloc_eq_none_iff`: nothing is given out exactly when the table is full;
* `Opened`: what a sequence of allocations has added to a table; closing all of it, in any order,
  gives the table back (`Opened.closeAll`).
-/

namespace Handles

/-- The handles in use, which are below the limit. -/
structure Table where
  limit : ℕ
  inUse : Finset ℕ
  bounded : inUse ⊆ Finset.range limit
deriving DecidableEq

/-- Two tables with one limit and the same handles are one table. -/
theorem Table.eq_of_inUse {t u : Table} (hlimit : t.limit = u.limit) (huse : t.inUse = u.inUse) :
    t = u := by
  cases t
  cases u
  cases hlimit
  cases huse
  rfl

/-- The least handle below the limit that is not in use. -/
def Table.free (t : Table) : Option ℕ := (List.range t.limit).find? fun h => h ∉ t.inUse

theorem Table.free_eq_some {t : Table} {h : ℕ} (hfree : t.free = some h) :
    h < t.limit ∧ h ∉ t.inUse :=
  ⟨List.mem_range.mp (List.mem_of_find?_eq_some hfree), by simpa using List.find?_some hfree⟩

/-- Give out a handle. -/
def Table.alloc (t : Table) : Option (ℕ × Table) :=
  match hfree : t.free with
  | none => none
  | some h => some (h, ⟨t.limit, insert h t.inUse, Finset.insert_subset
      (Finset.mem_range.mpr (Table.free_eq_some hfree).1) t.bounded⟩)

/-- Close a handle. -/
def Table.close (t : Table) (h : ℕ) : Table :=
  ⟨t.limit, t.inUse.erase h, (Finset.erase_subset h t.inUse).trans t.bounded⟩

/-- Close handles one after the other. -/
def Table.closeAll (t : Table) (hs : List ℕ) : Table := hs.foldl Table.close t

/-- The table `t'` is `t` with these handles, which are new to it. -/
structure Opened (t : Table) (hs : List ℕ) (t' : Table) : Prop where
  limit : t'.limit = t.limit
  inUse : t'.inUse = hs.toFinset ∪ t.inUse
  fresh : ∀ h ∈ hs, h ∉ t.inUse
  nodup : hs.Nodup

theorem Table.alloc_eq_some {t t' : Table} {h : ℕ} (halloc : t.alloc = some (h, t')) :
    h ∉ t.inUse ∧ t'.limit = t.limit ∧ t'.inUse = insert h t.inUse := by
  unfold Table.alloc at halloc
  split at halloc
  · cases halloc
  · rename_i h' hfree
    cases halloc
    exact ⟨(Table.free_eq_some hfree).2, rfl, rfl⟩

/-- A table that gives out nothing is full. -/
theorem Table.alloc_eq_none_iff {t : Table} : t.alloc = none ↔ t.inUse = Finset.range t.limit := by
  have hfree : t.alloc = none ↔ t.free = none := by
    unfold Table.alloc
    split <;> simp [*]
  rw [hfree, Table.free, List.find?_eq_none]
  constructor
  · intro hall
    apply Finset.Subset.antisymm t.bounded
    intro h hh
    simpa using hall h (List.mem_range.mpr (Finset.mem_range.mp hh))
  · intro hfull h hh
    rw [hfull]
    simpa using hh

/-! ### Sequences of allocations -/

variable {t t' t'' : Table} {h : ℕ} {hs : List ℕ}

theorem Opened.refl (t : Table) : Opened t [] t :=
  ⟨rfl, by simp, (fun _ hmem => by cases hmem), List.nodup_nil⟩

/-- One more handle. -/
theorem Opened.alloc (hopened : Opened t hs t') (halloc : t'.alloc = some (h, t'')) :
    Opened t (hs ++ [h]) t'' := by
  obtain ⟨hnew, hlimit, huse⟩ := Table.alloc_eq_some halloc
  rw [hopened.inUse, Finset.mem_union, List.mem_toFinset, not_or] at hnew
  obtain ⟨hnotMem, hnotUsed⟩ := hnew
  refine ⟨hlimit.trans hopened.limit, ?_, fun h' hmem => ?_, ?_⟩
  · rw [huse, hopened.inUse]
    ext h'
    simp only [Finset.mem_insert, Finset.mem_union, List.mem_toFinset, List.mem_append,
      List.mem_singleton]
    tauto
  · rcases List.mem_append.mp hmem with hmem | hmem
    · exact hopened.fresh h' hmem
    · rw [List.mem_singleton.mp hmem]
      exact hnotUsed
  · refine List.nodup_append.mpr ⟨hopened.nodup, List.nodup_singleton h, fun a ha b hb => ?_⟩
    rw [List.mem_singleton.mp hb]
    rintro rfl
    exact hnotMem ha

/-- Closing the handles of a list takes these away. -/
theorem Table.closeAll_spec (t : Table) (hs : List ℕ) :
    (t.closeAll hs).limit = t.limit ∧ (t.closeAll hs).inUse = t.inUse \ hs.toFinset := by
  unfold Table.closeAll
  induction hs generalizing t with
  | nil => exact ⟨rfl, by simp⟩
  | cons h hs ih =>
    obtain ⟨hlimit, huse⟩ := ih (t.close h)
    refine ⟨hlimit, ?_⟩
    rw [List.foldl_cons, huse]
    ext h'
    simp only [Table.close, Finset.mem_sdiff, Finset.mem_erase, List.mem_toFinset, List.mem_cons]
    tauto

/-- Closing what was opened, in any order, gives the table back. -/
theorem Opened.closeAll (hopened : Opened t hs t') {closed : List ℕ}
    (hperm : ∀ h, h ∈ closed ↔ h ∈ hs) : t'.closeAll closed = t := by
  obtain ⟨hlimit, huse⟩ := t'.closeAll_spec closed
  refine Table.eq_of_inUse (hlimit.trans hopened.limit) ?_
  rw [huse, hopened.inUse]
  ext h
  simp only [Finset.mem_sdiff, Finset.mem_union, List.mem_toFinset, hperm]
  constructor
  · rintro ⟨hmem | hmem, hnot⟩
    · exact absurd hmem hnot
    · exact hmem
  · intro hmem
    exact ⟨.inr hmem, fun hopen => hopened.fresh h hopen hmem⟩

/-- A handle that is given out and closed. -/
theorem Table.close_of_alloc (halloc : t.alloc = some (h, t')) : t'.close h = t := by
  have hsame : ∀ h', h' ∈ [h] ↔ h' ∈ [] ++ [h] := fun _ => Iff.rfl
  exact ((Opened.refl t).alloc halloc).closeAll hsame

end Handles
