import Mathlib.Data.Multiset.Count
import Mathlib.Data.Multiset.Filter
import Mathlib.Logic.Relation

namespace AlarmTable

/-!
# A table of alarms

What an alarm manager is for, without anything about how it finds the next alarm.  A table holds
alarms that are set; an alarm rings on its own, at a time that has come and is not before the one
it is due, and may leave alarms set behind it; alarms are cancelled by their key, and an alarm that
is set may be replaced by what the clocks make of it now.

* `Rules`: what a kind of alarm is;
* `Quiet`: the steps that set nothing;
* `Step`: those, and setting;
* `Quiet.total_le`: what ringing and replacing do not multiply, no quiet run multiplies.
-/

variable {α κ τ : Type*}

/-- What alarms are: their key, when they are due, what is recorded of one that rings at a time,
    what it then leaves set, and what one may be replaced by. -/
structure Rules (α κ τ : Type*) where
  key : α → κ
  due : α → τ
  ringing : τ → α → α
  again : τ → α → Multiset α
  Becomes : τ → α → Multiset α → Prop

/-- A table: the time, the alarms that are set, those that have rung and those that were
    cancelled. -/
structure Table (α τ : Type*) where
  now : τ
  alarms : Multiset α
  rung : Multiset α
  cancelled : Multiset α

/-- Setting an alarm. -/
def Table.set (t : Table α τ) (a : α) : Table α τ := { t with alarms := a ::ₘ t.alarms }

section
variable (P : α → Prop) [DecidablePred P]

/-- The alarms with `P` that are set, have rung or were cancelled. -/
def Table.total (t : Table α τ) : ℕ := (t.alarms + t.rung + t.cancelled).countP P

variable {P}

theorem Table.total_set (t : Table α τ) (a : α) :
    (t.set a).total P = t.total P + if P a then 1 else 0 := by
  unfold Table.total Table.set
  simp only [Multiset.countP_add, Multiset.countP_cons]
  omega

end

variable [LE τ] [DecidableEq κ]

/-- A step that sets nothing: time passes, a key is cancelled, an alarm is replaced, an alarm
    rings. -/
inductive Quiet (R : Rules α κ τ) : Table α τ → Table α τ → Prop
  | wait {now now' : τ} {alarms rung cancelled : Multiset α} (hle : now ≤ now') :
      Quiet R ⟨now, alarms, rung, cancelled⟩ ⟨now', alarms, rung, cancelled⟩
  | cancel {now : τ} {alarms rung cancelled : Multiset α} (k : κ) :
      Quiet R ⟨now, alarms, rung, cancelled⟩
        ⟨now, alarms.filter fun a => ¬ R.key a = k, rung,
          cancelled + alarms.filter fun a => R.key a = k⟩
  | become {now : τ} {rest rung cancelled new : Multiset α} {a : α} (hnew : R.Becomes now a new) :
      Quiet R ⟨now, a ::ₘ rest, rung, cancelled⟩ ⟨now, new + rest, rung, cancelled⟩
  | ring {now t : τ} {rest rung cancelled : Multiset α} {a : α} (hdue : R.due a ≤ t)
      (hnow : t ≤ now) :
      Quiet R ⟨now, a ::ₘ rest, rung, cancelled⟩
        ⟨now, R.again t a + rest, R.ringing t a ::ₘ rung, cancelled⟩

/-- A step of the table. -/
inductive Step (R : Rules α κ τ) : Table α τ → Table α τ → Prop
  | set (t : Table α τ) (a : α) : Step R t (t.set a)
  | quiet {t t' : Table α τ} (h : Quiet R t t') : Step R t t'

variable {R : Rules α κ τ} {t t' : Table α τ}

/-- A quiet run is a run. -/
theorem Step.of_quiet (h : Relation.ReflTransGen (Quiet R) t t') :
    Relation.ReflTransGen (Step R) t t' :=
  Relation.ReflTransGen.mono (fun _ _ => Step.quiet) _ _ h

/-! ### What is not multiplied -/

/-- Ringing and replacing make no alarm with `P` out of one without, and no two out of one. -/
structure Conserves (R : Rules α κ τ) (P : α → Prop) [DecidablePred P] : Prop where
  ring : ∀ t a, (R.again t a).countP P + (if P (R.ringing t a) then 1 else 0) ≤ if P a then 1 else 0
  become : ∀ t a new, R.Becomes t a new → new.countP P ≤ if P a then 1 else 0

variable {P : α → Prop} [DecidablePred P]

/-- **Conservation, one quiet step.** -/
theorem Quiet.total_le (h : Quiet R t t') (hP : Conserves R P) : t'.total P ≤ t.total P := by
  unfold Table.total
  cases h with
  | wait => exact Nat.le_refl _
  | cancel k =>
    -- the cancelled alarms and the others are all there were
    rename_i now alarms rung cancelled
    have hsplit := congrArg (Multiset.countP P)
      (Multiset.filter_add_not (fun a => R.key a = k) alarms)
    simp only [Multiset.countP_add] at hsplit ⊢
    omega
  | become hnew =>
    have hle := hP.become _ _ _ hnew
    simp only [Multiset.countP_add, Multiset.countP_cons]
    omega
  | ring hdue hnow =>
    rename_i now time rest rung cancelled a
    have hle := hP.ring time a
    simp only [Multiset.countP_add, Multiset.countP_cons]
    omega

/-- Conservation over a quiet run. -/
theorem total_le_of_quiet (h : Relation.ReflTransGen (Quiet R) t t') (hP : Conserves R P) :
    t'.total P ≤ t.total P := by
  induction h with
  | refl => exact Nat.le_refl _
  | tail _ hlast ih => exact (hlast.total_le hP).trans ih

end AlarmTable
