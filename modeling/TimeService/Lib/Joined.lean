import Mathlib.Data.List.Basic

namespace Joined

/-!
# Lists joined with a separator

Which lists of parts give a joined list: as a part may hold the separator, a joined list tells its
parts only up to that.  `dropLast_flatMap` is the loop that puts a separator after every part and
removes the last one.
-/

variable {α : Type*} {c : α}

/-- Around a separator that stands nowhere else the two sides are determined. -/
theorem append_cons_inj_of_not_mem {x r p q : List α} (hp : c ∉ p) (hq : c ∉ q) :
    x ++ c :: r = p ++ c :: q ↔ x = p ∧ r = q := by
  refine ⟨fun h => ?_, fun ⟨hx, hr⟩ => by rw [hx, hr]⟩
  rcases List.append_eq_append_iff.mp h with ⟨t, hpt, hrt⟩ | ⟨t, hxt, hqt⟩
  · cases t with
    | nil =>
      have hr : r = q := by simpa using hrt
      exact ⟨by rw [hpt, List.append_nil], hr⟩
    | cons d t =>
      -- the separator would stand before its place
      have hd : c = d := (List.cons.inj hrt).1
      exact (hp (by simp [hpt, hd])).elim
  · cases t with
    | nil =>
      have hq : q = r := by simpa using hqt
      exact ⟨by rw [hxt, List.append_nil], hq.symm⟩
    | cons d t =>
      have hq' : q = t ++ c :: r := (List.cons.inj hqt).2
      exact (hq (by simp [hq'])).elim

/-- A joined list without separator is its only part. -/
theorem intercalate_eq_iff_of_not_mem {parts : List (List α)} (hparts : parts ≠ []) {key : List α}
    (hkey : c ∉ key) : List.intercalate [c] parts = key ↔ parts = [key] := by
  refine ⟨fun h => ?_, fun h => by rw [h, List.intercalate_singleton]⟩
  match parts, hparts with
  | [part], _ => rw [← h, List.intercalate_singleton]
  | part :: part' :: parts, _ =>
    rw [List.intercalate_cons_cons] at h
    exact (hkey (by simp [← h])).elim

/-- A joined list with one separator has one part or two. -/
theorem intercalate_eq_append_iff {parts : List (List α)} {p q : List α} (hp : c ∉ p)
    (hq : c ∉ q) :
    List.intercalate [c] parts = p ++ c :: q ↔ parts = [p ++ c :: q] ∨ parts = [p, q] := by
  constructor
  · intro h
    match parts with
    | [] =>
      rw [List.intercalate_nil] at h
      simp at h
    | [part] =>
      rw [List.intercalate_singleton] at h
      exact .inl (by rw [h])
    | part :: part' :: parts =>
      rw [List.intercalate_cons_cons, List.append_assoc, List.singleton_append,
        append_cons_inj_of_not_mem hp hq] at h
      obtain ⟨hpart, hrest⟩ := h
      have hparts := (intercalate_eq_iff_of_not_mem (List.cons_ne_nil part' parts) hq).mp hrest
      exact .inr (by rw [hpart, hparts])
  · rintro (h | h)
    · rw [h, List.intercalate_singleton]
    · rw [h, List.intercalate_cons_cons, List.intercalate_singleton, List.append_assoc,
        List.singleton_append]

/-- A separator after every part, and the last one removed. -/
theorem dropLast_flatMap (parts : List (List α)) :
    (parts.flatMap fun part => part ++ [c]).dropLast = List.intercalate [c] parts := by
  induction parts with
  | nil => rfl
  | cons part parts ih =>
    rw [List.flatMap_cons]
    cases parts with
    | nil => simp
    | cons part' parts =>
      rw [List.dropLast_append_of_ne_nil (by simp), ih, List.intercalate_cons_cons]

end Joined
