import Mathlib.Data.List.Basic

namespace Run

/-!
# Runs of a deterministic system

A deterministic system is a total function `step : σ → α → σ`, and a run of it a state with a list
of actions.  The rules are about conditions that are exact: a property of single steps, or of
states, that fails as soon as one action of the run misses its condition.

* `along_congr`: a property of every step is equivalent to a condition on every action;
* `forall_states_iff`: so is a property of every state of the run;
* `view_foldl_purge`: what is seen of a run does not depend on the actions that are purged from it.
-/

variable {σ α : Type*}

/-- `P` holds of every action of the run, in the state in which it is taken. -/
def Along (step : σ → α → σ) (P : σ → α → Prop) : σ → List α → Prop
  | _, [] => True
  | s, a :: as => P s a ∧ Along step P (step s a) as

/-- The states of the run, the first and the last one included. -/
def states (step : σ → α → σ) (s : σ) (as : List α) : List σ := as.scanl step s

variable {step : σ → α → σ} {s : σ} {as : List α}

theorem along_cons {P : σ → α → Prop} {a : α} :
    Along step P s (a :: as) ↔ P s a ∧ Along step P (step s a) as := Iff.rfl

/-- **Exact conditions.** When the condition keeps an invariant, and under the invariant is
    equivalent to the property, it is equivalent to the property all along a run. -/
theorem along_congr {Inv : σ → Prop} {P C : σ → α → Prop} (hinit : Inv s)
    (hiff : ∀ t a, Inv t → (P t a ↔ C t a)) (hkeep : ∀ t a, Inv t → C t a → Inv (step t a)) :
    Along step P s as ↔ Along step C s as := by
  induction as generalizing s with
  | nil => exact Iff.rfl
  | cons a as ih =>
    rw [along_cons, along_cons]
    constructor
    · rintro ⟨hP, hrest⟩
      have hC : C s a := (hiff s a hinit).mp hP
      exact ⟨hC, (ih (hkeep s a hinit hC)).mp hrest⟩
    · rintro ⟨hC, hrest⟩
      exact ⟨(hiff s a hinit).mpr hC, (ih (hkeep s a hinit hC)).mpr hrest⟩

/-- **Exact conditions for states.** When under an invariant a step from a good state leads to a
    good state exactly under the condition, all the states of a run are good exactly when all its
    actions meet it. -/
theorem forall_states_iff {Inv Good : σ → Prop} {C : σ → α → Prop} (hinit : Inv s) (hgood : Good s)
    (hkeep : ∀ t a, Inv t → Inv (step t a))
    (hiff : ∀ t a, Inv t → Good t → (Good (step t a) ↔ C t a)) :
    (∀ t ∈ states step s as, Good t) ↔ Along step C s as := by
  induction as generalizing s with
  | nil =>
    show (∀ t ∈ [s], Good t) ↔ True
    simpa using hgood
  | cons a as ih =>
    have hstates : states step s (a :: as) = s :: states step (step s a) as := List.scanl_cons
    have hfirst : step s a ∈ states step (step s a) as := by
      unfold states
      cases as <;> simp
    have hnext : Inv (step s a) := hkeep s a hinit
    rw [hstates, List.forall_mem_cons, along_cons]
    constructor
    · rintro ⟨_, hrest⟩
      have hstep : Good (step s a) := hrest _ hfirst
      exact ⟨(hiff s a hinit hgood).mp hstep, (ih hnext hstep).mp hrest⟩
    · rintro ⟨hC, hrest⟩
      exact ⟨hgood, (ih hnext ((hiff s a hinit hgood).mpr hC)).mpr hrest⟩

/-- **Purging.** Where an action that is not allowed keeps the view, and the view after an allowed
    one depends on nothing but the view before it, a run can be seen to be the run of its allowed
    actions alone. -/
theorem view_foldl_purge {ω : Type*} {Inv : σ → Prop} {view : σ → ω} {allowed : α → Bool}
    (hkeep : ∀ t a, Inv t → Inv (step t a))
    (hlocal : ∀ t a, Inv t → allowed a = false → view (step t a) = view t)
    (hstep : ∀ t t' a, Inv t → Inv t' → allowed a = true → view t = view t' →
      view (step t a) = view (step t' a))
    {t t' : σ} (ht : Inv t) (ht' : Inv t') (hview : view t = view t') :
    view (as.foldl step t) = view ((as.filter allowed).foldl step t') := by
  induction as generalizing t t' with
  | nil => exact hview
  | cons a as ih =>
    rw [List.foldl_cons]
    cases hallowed : allowed a with
    | false =>
      rw [List.filter_cons_of_neg (by simp [hallowed])]
      apply ih (hkeep t a ht) ht'
      rw [hlocal t a ht hallowed, hview]
    | true =>
      rw [List.filter_cons_of_pos hallowed, List.foldl_cons]
      exact ih (hkeep t a ht) (hkeep t' a ht') (hstep t t' a ht ht' hallowed hview)

end Run
