import Mathlib.Data.Nat.Notation
import Mathlib.Tactic.Common

namespace While

/-!
# Loops that end

A `while` loop is given by one round, `round : σ → Option σ`: `none` says that the loop stops
here.  `Ends round s t` says that the loop, started in `s`, ends and leaves `t`; a loop that
runs forever ends in no state.

* `Ends.unique`: a loop ends in one way at most;
* `ends_runFor`: with a measure that every round lowers, the loop run for that many rounds is the
  loop itself.
-/

variable {σ : Type*}

/-- The loop, started in the first state, ends in the second. -/
inductive Ends (round : σ → Option σ) : σ → σ → Prop
  | stop (s : σ) (h : round s = none) : Ends round s s
  | next (s t u : σ) (h : round s = some t) (hrest : Ends round t u) : Ends round s u

/-- The loop, cut off after a number of rounds. -/
def runFor (round : σ → Option σ) : ℕ → σ → σ
  | 0, s => s
  | fuel + 1, s =>
    match round s with
    | none => s
    | some t => runFor round fuel t

variable {round : σ → Option σ} {s t u : σ}

/-- A loop ends where it stops. -/
theorem Ends.stopped (h : Ends round s t) : round t = none := by
  induction h with
  | stop s h => exact h
  | next s t u h hrest ih => exact ih

theorem Ends.unique (h : Ends round s t) (h' : Ends round s u) : t = u := by
  induction h with
  | stop s hstop =>
    cases h' with
    | stop => rfl
    | next _ _ _ hround => simp [hstop] at hround
  | next s t _ hround hrest ih =>
    cases h' with
    | stop _ hstop => simp [hround] at hstop
    | next _ _ _ hround' hrest' =>
      -- both take the same first round
      rw [hround] at hround'
      cases hround'
      exact ih hrest'

/-- **Termination rule.** When every round lowers the measure, the loop ends, and in no more rounds
    than the measure says. -/
theorem ends_runFor {μ : σ → ℕ} (hμ : ∀ s t, round s = some t → μ t < μ s) :
    ∀ (fuel : ℕ) (s : σ), μ s ≤ fuel → Ends round s (runFor round fuel s) := by
  intro fuel
  induction fuel with
  | zero =>
    intro s hs
    apply Ends.stop
    -- a round would go below zero
    rcases hround : round s with _ | t
    · rfl
    · have := hμ s t hround
      omega
  | succ fuel ih =>
    intro s hs
    rw [runFor]
    rcases hround : round s with _ | t
    · exact Ends.stop s hround
    · have := hμ s t hround
      exact Ends.next s t _ hround (ih t (by omega))

end While
