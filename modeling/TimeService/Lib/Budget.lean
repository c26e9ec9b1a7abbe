import TimeService.Lib.Transition

namespace Transition

/-!
# Runs with a cost

Every step of a transition system may cost something: `Spends step ok cost s n s'` says that some
guarded run leads from `s` to `s'` and that its steps cost `n` together.  A potential of the states
turns what single steps do into a bound for runs.

* `Spends.potential_le`: a potential that a step raises by at most its cost is raised by a run by
  at most what the run costs;
* `Spends.potential_eq`: and by exactly that, if every step raises it by exactly its cost;
* `exists_spends_of_costWhen`: runs and their costs can be computed.
-/

variable {σ α : Type*}

/-- A guarded run and what it costs. -/
inductive Spends (step : σ → α → Option σ) (ok : σ → α → Prop) (cost : σ → α → ℕ) (s : σ) :
    ℕ → σ → Prop
  | refl : Spends step ok cost s 0 s
  | tail {t u : σ} {n : ℕ} {a : α} (hrun : Spends step ok cost s n t) (hok : ok t a)
      (hstep : step t a = some u) : Spends step ok cost s (n + cost t a) u

variable {step : σ → α → Option σ} {ok : σ → α → Prop} {cost : σ → α → ℕ} {s s' s'' : σ}

/-- A run with a cost is a run. -/
theorem Spends.reaches {n : ℕ} (h : Spends step ok cost s n s') : Reaches step ok s s' := by
  induction h with
  | refl => exact Reaches.refl
  | tail _ hok hstep ih => exact ih.tail hok hstep

/-- A run under a guard is one under every weaker guard, at the same cost. -/
theorem Spends.mono {ok' : σ → α → Prop} {n : ℕ} (h : Spends step ok cost s n s')
    (hweaker : ∀ t a, ok t a → ok' t a) : Spends step ok' cost s n s' := by
  induction h with
  | refl => exact .refl
  | tail _ hok hstep ih => exact .tail ih (hweaker _ _ hok) hstep

/-- A run may be preceded by a step. -/
theorem Spends.head {n : ℕ} {a : α} (hok : ok s a) (hstep : step s a = some s')
    (h : Spends step ok cost s' n s'') : Spends step ok cost s (cost s a + n) s'' := by
  induction h with
  | refl =>
    have hone : Spends step ok cost s (0 + cost s a) _ := .tail .refl hok hstep
    rwa [Nat.zero_add] at hone
  | tail _ hok' hstep' ih =>
    rw [← Nat.add_assoc]
    exact .tail ih hok' hstep'

/-- **Potential rule.** Under an invariant a potential that every step raises by at most its cost is
    raised by at most the cost of the run. -/
theorem Spends.potential_le {Inv : σ → Prop} {Φ : σ → ℕ} {n : ℕ}
    (h : Spends step ok cost s n s')
    (hkeep : ∀ t a t', Inv t → ok t a → step t a = some t' → Inv t')
    (hle : ∀ t a t', Inv t → ok t a → step t a = some t' → Φ t' ≤ Φ t + cost t a)
    (hinit : Inv s) : Φ s' ≤ Φ s + n := by
  induction h with
  | refl => exact Nat.le_refl _
  | tail hrun hok hstep ih =>
    have hinv := hrun.reaches.invariant hkeep hinit
    have hlast := hle _ _ _ hinv hok hstep
    omega

/-- The potential rule for steps that raise the potential by exactly their cost. -/
theorem Spends.potential_eq {Inv : σ → Prop} {Φ : σ → ℕ} {n : ℕ}
    (h : Spends step ok cost s n s')
    (hkeep : ∀ t a t', Inv t → ok t a → step t a = some t' → Inv t')
    (heq : ∀ t a t', Inv t → ok t a → step t a = some t' → Φ t' = Φ t + cost t a)
    (hinit : Inv s) : Φ s' = Φ s + n := by
  induction h with
  | refl => exact (Nat.add_zero _).symm
  | tail hrun hok hstep ih =>
    have hinv := hrun.reaches.invariant hkeep hinit
    have hlast := heq _ _ _ hinv hok hstep
    omega

/-! ### Computed costs -/

/-- Run a list of actions, checking the guard at each and adding up the costs. -/
def costWhen (step : σ → α → Option σ) (ok : σ → α → Bool) (cost : σ → α → ℕ) :
    σ → List α → Option (ℕ × σ)
  | s, [] => some (0, s)
  | s, a :: as =>
    if ok s a then
      (step s a).bind fun t => (costWhen step ok cost t as).map fun r => (cost s a + r.1, r.2)
    else none

/-- A computed run is a run, at the computed cost. -/
theorem spends_of_costWhen {okb : σ → α → Bool} (hok : ∀ t a, okb t a = true → ok t a)
    (acts : List α) : ∀ (s : σ) (r : ℕ × σ), costWhen step okb cost s acts = some r →
      Spends step ok cost s r.1 r.2 := by
  induction acts with
  | nil =>
    intro s r h
    cases h
    exact .refl
  | cons a as ih =>
    intro s r h
    rw [costWhen] at h
    split at h
    · rename_i hcheck
      obtain ⟨t, hstep, hmap⟩ := Option.bind_eq_some_iff.mp h
      obtain ⟨rest, hrest, rfl⟩ := Option.map_eq_some_iff.mp hmap
      exact Spends.head (hok s a hcheck) hstep (ih t rest hrest)
    · cases h

/-- A computed run that passes a check. -/
theorem exists_spends_of_costWhen {okb : σ → α → Bool} (hok : ∀ t a, okb t a = true → ok t a)
    (acts : List α) (check : ℕ → σ → Bool)
    (h : ((costWhen step okb cost s acts).any fun r => check r.1 r.2) = true) :
    ∃ n s', Spends step ok cost s n s' ∧ check n s' = true := by
  obtain ⟨r, hrun, hcheck⟩ := (Option.any_eq_true _ _).mp h
  exact ⟨r.1, r.2, spends_of_costWhen hok acts s r hrun, hcheck⟩

end Transition
