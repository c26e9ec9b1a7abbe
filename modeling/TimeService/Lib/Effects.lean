import Mathlib.Control.Monad.Basic

namespace Effects

/-!
# Computations with at most one effect

A computation of `OptionT (StateM σ)` leaves a state behind, whether it gives an answer or not.
Many a handler reads its input, makes one call and writes its answer: it leaves every state as it
is, or changes it by one effect that does not depend on the state (`AtMostOne`).  What holds of the
effects then holds of the handlers.

* `Constant.bind`, `atMostOne_call_bind`: the rules for a read and for the call;
* `AtMostOne.keeps`, `AtMostOne.respects`: invariants and views of the effects are those of the
  computation.
-/

variable {σ α β : Type} {E : (σ → σ) → Prop}

/-- The state that a computation leaves. -/
def after (x : OptionT (StateM σ) α) (s : σ) : σ := (x.run.run s).2

/-- The computation leaves every state as it is. -/
def Silent (x : OptionT (StateM σ) α) : Prop := ∀ s, after x s = s

/-- The computation leaves every state as it is, or does what one of the effects does. -/
def AtMostOne (E : (σ → σ) → Prop) (x : OptionT (StateM σ) α) : Prop :=
  Silent x ∨ ∃ f, E f ∧ ∀ s, after x s = f s

/-- The computation has no effect, and its answer does not depend on the state. -/
def Constant (x : OptionT (StateM σ) α) : Prop := x = failure ∨ ∃ a, x = pure a

@[simp] theorem silent_pure (a : α) : Silent (pure a : OptionT (StateM σ) α) := fun _ => rfl

@[simp] theorem silent_failure : Silent (failure : OptionT (StateM σ) α) := fun _ => rfl

theorem Silent.atMostOne {x : OptionT (StateM σ) α} (h : Silent x) : AtMostOne E x := .inl h

theorem AtMostOne.mono {E' : (σ → σ) → Prop} {x : OptionT (StateM σ) α} (h : AtMostOne E x)
    (hweaker : ∀ f, E f → E' f) : AtMostOne E' x := by
  rcases h with hsilent | ⟨f, hf, hafter⟩
  · exact hsilent.atMostOne
  · exact .inr ⟨f, hweaker f hf, hafter⟩

/-- **Read rule.** -/
theorem Constant.bind {x : OptionT (StateM σ) α} {k : α → OptionT (StateM σ) β}
    (hx : Constant x) (hk : ∀ a, AtMostOne E (k a)) : AtMostOne E (x >>= k) := by
  rcases hx with rfl | ⟨a, rfl⟩
  · have hfail : (failure >>= k : OptionT (StateM σ) β) = failure := rfl
    rw [hfail]
    exact silent_failure.atMostOne
  · rw [pure_bind]
    exact hk a

/-- **Call rule.** Behind the call nothing changes any more. -/
theorem atMostOne_call_bind {x : StateM σ α} {k : α → OptionT (StateM σ) β}
    (hx : E fun s => (x.run s).2) (hk : ∀ a, Silent (k a)) :
    AtMostOne E (OptionT.lift x >>= k) := by
  right
  refine ⟨_, hx, fun s => ?_⟩
  show after (k (x.run s).1) (x.run s).2 = (x.run s).2
  exact hk _ _

/-- **Invariants.** What every effect keeps, the computation keeps. -/
theorem AtMostOne.keeps {x : OptionT (StateM σ) α} {Inv : σ → Prop}
    (h : AtMostOne (fun f => ∀ s, Inv s → Inv (f s)) x) {s : σ} (hs : Inv s) :
    Inv (after x s) := by
  rcases h with hsilent | ⟨f, hf, hafter⟩
  · rw [hsilent s]
    exact hs
  · rw [hafter s]
    exact hf s hs

/-- **Views.** Where the view after every effect depends on the view before it alone, so does the
    view after the computation. -/
theorem AtMostOne.respects {x : OptionT (StateM σ) α} {ω : Type} {Inv : σ → Prop} {view : σ → ω}
    (h : AtMostOne (fun f => ∀ s t, Inv s → Inv t → view s = view t → view (f s) = view (f t)) x)
    {s t : σ} (hs : Inv s) (ht : Inv t) (hview : view s = view t) :
    view (after x s) = view (after x t) := by
  rcases h with hsilent | ⟨f, hf, hafter⟩
  · rw [hsilent s, hsilent t]
    exact hview
  · rw [hafter s, hafter t]
    exact hf s t hs ht hview

end Effects
