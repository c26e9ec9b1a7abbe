import Mathlib.Logic.Relation
import Mathlib.Data.List.Basic

namespace Transition

/-!
# Guarded runs of a transition system

A transition system is a partial step function `step : σ → α → Option σ`: `none` says that the
action is not enabled.  `Reaches step ok` relates two states when some run leads from the
first to the second and every action of that run meets the guard `ok` in the state it is taken
in.  A guard that is always true gives plain reachability; any other gives the runs whose
steps all meet a condition.

* `Reaches.invariant`: what holds at the start and is kept by one guarded step holds at the end;
* `Reaches.log`: what each step appends to a log is all that a run appends to it;
* `reaches_of_runWhen`: runs can be computed.
-/

variable {σ α : Type*}

/-- One step under a guard. -/
def StepWhen (step : σ → α → Option σ) (ok : σ → α → Prop) (s s' : σ) : Prop :=
  ∃ a, ok s a ∧ step s a = some s'

/-- A run all of whose steps meet the guard. -/
def Reaches (step : σ → α → Option σ) (ok : σ → α → Prop) : σ → σ → Prop :=
  Relation.ReflTransGen (StepWhen step ok)

variable {step : σ → α → Option σ} {ok : σ → α → Prop} {s s' s'' : σ}

theorem Reaches.refl : Reaches step ok s s := Relation.ReflTransGen.refl

theorem Reaches.trans (h : Reaches step ok s s') (h' : Reaches step ok s' s'') :
    Reaches step ok s s'' :=
  Relation.ReflTransGen.trans h h'

theorem Reaches.tail {a : α} (h : Reaches step ok s s') (hok : ok s' a)
    (hstep : step s' a = some s'') : Reaches step ok s s'' :=
  Relation.ReflTransGen.tail h ⟨a, hok, hstep⟩

/-- A run under a guard is one under every weaker guard. -/
theorem Reaches.mono {ok' : σ → α → Prop} (h : Reaches step ok s s')
    (hweaker : ∀ t a, ok t a → ok' t a) : Reaches step ok' s s' := by
  induction h with
  | refl => exact Reaches.refl
  | tail _ hlast ih =>
    obtain ⟨a, hok, hs⟩ := hlast
    exact ih.tail (hweaker _ a hok) hs

/-- **Invariant rule.** What one guarded step keeps, a run of guarded steps keeps. -/
theorem Reaches.invariant {Inv : σ → Prop} (h : Reaches step ok s s')
    (hstep : ∀ t a t', Inv t → ok t a → step t a = some t' → Inv t') (hinit : Inv s) : Inv s' := by
  induction h with
  | refl => exact hinit
  | tail _ hlast ih =>
    obtain ⟨a, hok, hs⟩ := hlast
    exact hstep _ a _ ih hok hs

/-- **Log rule.** When every guarded step from a state satisfying the invariant appends to the log
    only entries with property `P`, so does every guarded run. -/
theorem Reaches.log {ε : Type*} {Inv : σ → Prop} {P : ε → Prop} (log : σ → List ε)
    (h : Reaches step ok s s')
    (hstep : ∀ t a t', Inv t → ok t a → step t a = some t' →
      Inv t' ∧ ∃ l, log t' = log t ++ l ∧ ∀ e ∈ l, P e)
    (hinit : Inv s) : Inv s' ∧ ∃ l, log s' = log s ++ l ∧ ∀ e ∈ l, P e := by
  induction h with
  | refl => exact ⟨hinit, [], by simp, by simp⟩
  | tail _ hlast ih =>
    obtain ⟨a, hok, hs⟩ := hlast
    obtain ⟨hinv, l, hl, hP⟩ := ih
    obtain ⟨hinv', l', hl', hP'⟩ := hstep _ a _ hinv hok hs
    refine ⟨hinv', l ++ l', by rw [hl', hl, List.append_assoc], ?_⟩
    intro e he
    rcases List.mem_append.mp he with he | he
    · exact hP e he
    · exact hP' e he

/-- Run a list of actions, checking the guard at each. -/
def runWhen (step : σ → α → Option σ) (ok : σ → α → Bool) : σ → List α → Option σ
  | s, [] => some s
  | s, a :: as => if ok s a then (step s a).bind fun t => runWhen step ok t as else none

/-- A computed run is a run. -/
theorem reaches_of_runWhen {okb : σ → α → Bool} (hok : ∀ t a, okb t a = true → ok t a)
    (acts : List α) : ∀ s, runWhen step okb s acts = some s' → Reaches step ok s s' := by
  induction acts with
  | nil =>
    intro s h
    cases h
    exact Reaches.refl
  | cons a as ih =>
    intro s h
    rw [runWhen] at h
    split at h
    · rename_i hcheck
      -- the first action is one step, the rest is a computed run from where it leads
      obtain ⟨t, hstep, hrest⟩ := Option.bind_eq_some_iff.mp h
      exact (Reaches.tail Reaches.refl (hok s a hcheck) hstep).trans (ih t hrest)
    · cases h

/-- A computed run reaches a state that passes a check. -/
theorem exists_reaches_of_runWhen {okb : σ → α → Bool} (hok : ∀ t a, okb t a = true → ok t a)
    (acts : List α) (check : σ → Bool) (h : (runWhen step okb s acts).any check = true) :
    ∃ s', Reaches step ok s s' ∧ check s' = true := by
  obtain ⟨s', hrun, hcheck⟩ := (Option.any_eq_true _ _).mp h
  exact ⟨s', reaches_of_runWhen hok acts s hrun, hcheck⟩

end Transition
