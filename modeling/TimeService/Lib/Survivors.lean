import Mathlib.Data.List.Perm.Basic

namespace Survivors

/-!
# What a history of additions and removals leaves

A container is edited by adding one element or by removing every element that a predicate matches.
`survivors` says what it should hold by looking at the history alone: the elements that were added
and that no later removal matched.

* `survivors_concat_add`, `survivors_concat_remove`: one more edit at the end of the history;
* `perm_survivors`: a container whose single actions do what they should, in whatever order it
  keeps its elements, holds the survivors after every history.
-/

variable {α σ ι : Type*}

/-- One edit of a container. -/
inductive Edit (α : Type*)
  | add (a : α)
  | remove (p : α → Bool)

/-- The edit takes `a` out of the container. -/
def Edit.removes : Edit α → α → Bool
  | .add _, _ => false
  | .remove p, a => p a

@[simp] theorem Edit.removes_add (b a : α) : (Edit.add b).removes a = false := rfl

@[simp] theorem Edit.removes_remove (p : α → Bool) (a : α) : (Edit.remove p).removes a = p a := rfl

/-- The elements added and matched by no later removal, in the order of their addition. -/
def survivors : List (Edit α) → List α
  | [] => []
  | .add a :: later =>
    if later.any fun e => e.removes a then survivors later else a :: survivors later
  | .remove _ :: later => survivors later

@[simp] theorem survivors_nil : survivors ([] : List (Edit α)) = [] := rfl

theorem survivors_concat_add (es : List (Edit α)) (a : α) :
    survivors (es ++ [.add a]) = survivors es ++ [a] := by
  induction es with
  | nil => rfl
  | cons e es ih =>
    cases e with
    | remove p => exact ih
    | add b =>
      -- the addition at the end removes nothing, so `b` survives it exactly as it did before
      have hany : ((es ++ [Edit.add a]).any fun e => e.removes b)
          = es.any fun e => e.removes b := by
        simp
      rw [List.cons_append, survivors, survivors, hany, ih]
      split <;> rfl

theorem survivors_concat_remove (es : List (Edit α)) (p : α → Bool) :
    survivors (es ++ [.remove p]) = (survivors es).filter fun a => !p a := by
  induction es with
  | nil => rfl
  | cons e es ih =>
    cases e with
    | remove q => exact ih
    | add b =>
      have hany : ((es ++ [Edit.remove p]).any fun e => e.removes b)
          = ((es.any fun e => e.removes b) || p b) := by
        simp
      rw [List.cons_append, survivors, survivors, hany, ih]
      cases hearlier : es.any fun e => e.removes b with
      | true => rfl
      | false => cases hp : p b <;> simp [hp]

/-- What the edit makes of a container that holds `l`. -/
def Edit.apply : Edit α → List α → List α
  | .add a, l => a :: l
  | .remove p, l => l.filter fun a => !p a

/-- One more edit at the end of the history. -/
theorem survivors_concat_perm (es : List (Edit α)) (e : Edit α) :
    (survivors (es ++ [e])).Perm (e.apply (survivors es)) := by
  cases e with
  | add a =>
    rw [survivors_concat_add]
    exact List.perm_append_singleton a _
  | remove p =>
    rw [survivors_concat_remove]
    exact List.Perm.refl _

theorem Edit.apply_perm (e : Edit α) {l l' : List α} (h : l.Perm l') :
    (e.apply l).Perm (e.apply l') := by
  cases e with
  | add a => exact h.cons a
  | remove p => exact h.filter _

/-- **Run rule.** A container on which every action does its edit, whatever order it keeps, holds
    the survivors of all that has been done to it. -/
theorem perm_survivors {content : σ → List α} {step : σ → ι → σ} {edit : ι → Edit α}
    (hstep : ∀ s i, (content (step s i)).Perm ((edit i).apply (content s)))
    {s : σ} {before : List (Edit α)} (hs : (content s).Perm (survivors before))
    (actions : List ι) :
    (content (actions.foldl step s)).Perm (survivors (before ++ actions.map edit)) := by
  induction actions generalizing s before with
  | nil => simpa using hs
  | cons i actions ih =>
    have hnext : (content (step s i)).Perm (survivors (before ++ [edit i])) :=
      ((hstep s i).trans ((edit i).apply_perm hs)).trans
        (survivors_concat_perm before (edit i)).symm
    have hrest := ih hnext
    rwa [List.append_assoc] at hrest

end Survivors
