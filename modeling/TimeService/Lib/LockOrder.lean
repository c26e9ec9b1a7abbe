import TimeService.Lib.Transition
import Mathlib.Data.Set.Basic
import Mathlib.Logic.Function.Basic
import Mathlib.Tactic.Common

namespace LockOrder

open Transition

/-!
# Locks, requests and deadlock

Threads take and release non-recursive locks and send synchronous requests: a request runs a
procedure on a thread of its own, and the sender goes on when that thread has finished.  The code
of a procedure is a path, a list of these operations; the choice of the path stands for the
branches that it takes.

* `Deadlocked`: a set of threads each of which waits for a lock held by, or a reply owed by, a
  thread of the set;
* `Levels.Disciplined`: a path takes its locks downwards, and sends a request only to procedures
  below every lock it holds and below its own level;
* `no_deadlock`: a run that starts disciplined procedures only does not deadlock, because along
  the waiting the ranks go down.
-/

/-- What a thread does next. -/
inductive Op (L P : Type*)
  | lock (l : L)
  | unlock (l : L)
  | request (p : P)
deriving DecidableEq

/-- The scope of a `std::lock_guard`. -/
def lockGuard {L P : Type*} (l : L) (scope : List (Op L P)) : List (Op L P) :=
  .lock l :: scope ++ [.unlock l]

/-- The procedures, and those that may run without being requested. -/
structure Program (L P : Type*) where
  body : P → List (Op L P)
  root : P → Bool

/-- `awaits` is the thread that owes the reply to the request in front of the code. -/
structure Thread (L P : Type*) where
  held : List L
  code : List (Op L P)
  awaits : Option ℕ
deriving DecidableEq

inductive Action (P : Type*)
  | spawn (p : P)
  | run (i : ℕ)

variable {L P : Type*}

/-- A thread that begins a procedure. -/
def Program.begin (prog : Program L P) (p : P) : Thread L P := ⟨[], prog.body p, none⟩

/-- The thread has finished. -/
def finished (s : List (Thread L P)) (j : ℕ) : Bool := s[j]?.any fun t => t.code.isEmpty

/-- The procedure that the action starts. -/
def started (s : List (Thread L P)) : Action P → Option P
  | .spawn p => some p
  | .run i =>
    match s[i]? with
    | some ⟨_, .request p :: _, none⟩ => some p
    | _ => none

/-- The action starts no procedure but those of `A`. -/
def Starts (A : P → Prop) (s : List (Thread L P)) (a : Action P) : Prop :=
  ∀ p, started s a = some p → A p

/-- The threads after one more has come in. -/
theorem getElem?_concat {s : List (Thread L P)} {i : ℕ} {t u : Thread L P}
    (h : (s ++ [u])[i]? = some t) :
    (i < s.length ∧ s[i]? = some t) ∨ (i = s.length ∧ t = u) := by
  rcases Nat.lt_trichotomy i s.length with hlt | rfl | hgt
  · rw [List.getElem?_append_left hlt] at h
    exact Or.inl ⟨hlt, h⟩
  · rw [List.getElem?_concat_length] at h
    exact Or.inr ⟨rfl, (Option.some.inj h).symm⟩
  · rw [List.getElem?_eq_none (by rw [List.length_append, List.length_singleton]; omega)] at h
    cases h

section Step

variable [DecidableEq L]

/-- No thread holds the lock. -/
def free (s : List (Thread L P)) (l : L) : Bool := s.all fun t => l ∉ t.held

/-- A lock that is held, also by the thread itself, stops the thread; so does a reply that is
    owed. -/
def step (prog : Program L P) (s : List (Thread L P)) : Action P → Option (List (Thread L P))
  | .spawn p => if prog.root p then some (s ++ [prog.begin p]) else none
  | .run i =>
    match s[i]? with
    | none => none
    | some t =>
      match t.code with
      | [] => none
      | .lock l :: code =>
        if free s l then some (s.set i { t with held := l :: t.held, code := code }) else none
      | .unlock l :: code => some (s.set i { t with held := t.held.erase l, code := code })
      | .request p :: code =>
        match t.awaits with
        | none => some (s.set i { t with awaits := some s.length } ++ [prog.begin p])
        | some j =>
          if finished s j then some (s.set i { t with code := code, awaits := none }) else none

/-- What a step does. -/
inductive StepCase (prog : Program L P) (s : List (Thread L P)) :
    Action P → List (Thread L P) → Prop
  | spawn (p : P) (hroot : prog.root p = true) :
      StepCase prog s (.spawn p) (s ++ [prog.begin p])
  | lock (i : ℕ) (t : Thread L P) (l : L) (code : List (Op L P)) (hi : s[i]? = some t)
      (hcode : t.code = .lock l :: code) (hfree : free s l = true) :
      StepCase prog s (.run i) (s.set i { t with held := l :: t.held, code := code })
  | unlock (i : ℕ) (t : Thread L P) (l : L) (code : List (Op L P)) (hi : s[i]? = some t)
      (hcode : t.code = .unlock l :: code) :
      StepCase prog s (.run i) (s.set i { t with held := t.held.erase l, code := code })
  | request (i : ℕ) (t : Thread L P) (p : P) (code : List (Op L P)) (hi : s[i]? = some t)
      (hcode : t.code = .request p :: code) (hawaits : t.awaits = none) :
      StepCase prog s (.run i) (s.set i { t with awaits := some s.length } ++ [prog.begin p])
  | reply (i : ℕ) (t : Thread L P) (p : P) (code : List (Op L P)) (j : ℕ) (hi : s[i]? = some t)
      (hcode : t.code = .request p :: code) (hawaits : t.awaits = some j)
      (hfinished : finished s j = true) :
      StepCase prog s (.run i) (s.set i { t with code := code, awaits := none })

variable {prog : Program L P} {s s' : List (Thread L P)} {a : Action P}

theorem step_cases (h : step prog s a = some s') : StepCase prog s a s' := by
  cases a with
  | spawn p =>
    simp only [step] at h
    split at h
    · rename_i hroot
      cases h
      exact .spawn p hroot
    · cases h
  | run i =>
    simp only [step] at h
    split at h
    · cases h
    · rename_i t hi
      split at h
      · cases h
      · rename_i l code hcode
        split at h
        · rename_i hfree
          cases h
          exact .lock i t l code hi hcode hfree
        · cases h
      · rename_i l code hcode
        cases h
        exact .unlock i t l code hi hcode
      · rename_i p code hcode
        split at h
        · rename_i hawaits
          cases h
          exact .request i t p code hi hcode hawaits
        · rename_i j hawaits
          split at h
          · rename_i hfinished
            cases h
            exact .reply i t p code j hi hcode hawaits hfinished
          · cases h

/-- The threads after a list of actions, and the procedures started on the way. -/
def run (prog : Program L P) :
    List (Thread L P) → List (Action P) → Option (List (Thread L P) × List P)
  | s, [] => some (s, [])
  | s, a :: as =>
    (step prog s a).bind fun t => (run prog t as).map fun r => (r.1, (started s a).toList ++ r.2)

/-- A computed run is a run. -/
theorem reaches_of_run {A : P → Prop} (acts : List (Action P)) :
    ∀ (s : List (Thread L P)) (ps : List P), run prog s acts = some (s', ps) → (∀ p ∈ ps, A p) →
      Reaches (step prog) (Starts A) s s' := by
  induction acts with
  | nil =>
    intro s ps h _
    cases h
    exact Reaches.refl
  | cons a as ih =>
    intro s ps h hA
    rw [run] at h
    obtain ⟨t, hstep, hrest⟩ := Option.bind_eq_some_iff.mp h
    obtain ⟨⟨s', ps'⟩, hrun, hps⟩ := Option.map_eq_some_iff.mp hrest
    cases hps
    have hok : Starts A s a := fun p hp =>
      hA p (List.mem_append_left _ (Option.mem_toList.mpr hp))
    have hrest' := ih t ps' hrun fun p hp => hA p (List.mem_append_right _ hp)
    exact (Reaches.tail Reaches.refl hok hstep).trans hrest'

end Step

/-! ### Waiting -/

/-- Thread `i` stands in front of the operation and waits for thread `j`, which may be `i` itself:
    `j` holds the lock, or owes the reply. -/
inductive Waits (s : List (Thread L P)) (i : ℕ) : Op L P → ℕ → Prop
  | lock (t u : Thread L P) (l : L) (code : List (Op L P)) (j : ℕ) (hi : s[i]? = some t)
      (hcode : t.code = .lock l :: code) (hj : s[j]? = some u) (hheld : l ∈ u.held) :
      Waits s i (.lock l) j
  | reply (t u : Thread L P) (p : P) (code : List (Op L P)) (j : ℕ) (hi : s[i]? = some t)
      (hcode : t.code = .request p :: code) (hawaits : t.awaits = some j) (hj : s[j]? = some u)
      (hrunning : u.code ≠ []) : Waits s i (.request p) j

/-- Some threads wait for each other, or one for itself. -/
def Deadlocked (s : List (Thread L P)) : Prop :=
  ∃ D : Set ℕ, D.Nonempty ∧ ∀ i ∈ D, ∃ op, ∃ j ∈ D, Waits s i op j

/-! ### The order -/

/-- The levels of the locks and of the procedures. -/
structure Levels (L P : Type*) where
  lock : L → ℕ
  proc : P → ℕ

/-- A path from where `held` is held: it takes no lock above the level `k`, takes locks downwards,
    and requests only procedures below `k` and below all it holds. -/
def Levels.Disciplined [DecidableEq L] (lv : Levels L P) (k : ℕ) :
    List L → List (Op L P) → Prop
  | _, [] => True
  | held, .lock l :: code =>
    lv.lock l ≤ k ∧ (∀ h ∈ held, lv.lock l < lv.lock h) ∧ lv.Disciplined k (l :: held) code
  | held, .unlock l :: code => lv.Disciplined k (held.erase l) code
  | held, .request p :: code =>
    lv.proc p < k ∧ (∀ h ∈ held, lv.proc p < lv.lock h) ∧ lv.Disciplined k held code

/-- How far down a thread waits in front of an operation. -/
def Levels.rank (lv : Levels L P) : Op L P → ℕ
  | .lock l => 2 * lv.lock l
  | .unlock _ => 0
  | .request p => 2 * lv.proc p + 1

variable [DecidableEq L]

/-- A piece of a path that leaves the locks as they were and may stand in front of any disciplined
    path. -/
def Levels.Safe (lv : Levels L P) (k : ℕ) (held : List L) (code : List (Op L P)) : Prop :=
  ∀ rest, lv.Disciplined k held rest → lv.Disciplined k held (code ++ rest)

namespace Levels.Safe

variable {lv : Levels L P} {k : ℕ} {held : List L} {c c' : List (Op L P)}

theorem disciplined (h : lv.Safe k held c) : lv.Disciplined k held c := by
  have := h [] trivial
  rwa [List.append_nil] at this

theorem nil : lv.Safe k held [] := fun _ hrest => hrest

theorem append (h : lv.Safe k held c) (h' : lv.Safe k held c') : lv.Safe k held (c ++ c') := by
  intro rest hrest
  rw [List.append_assoc]
  exact h _ (h' rest hrest)

/-- A branch is safe when both its sides are. -/
theorem ite {p : Prop} [Decidable p] (h : p → lv.Safe k held c) (h' : ¬p → lv.Safe k held c') :
    lv.Safe k held (if p then c else c') := by
  split
  · exact h ‹_›
  · exact h' ‹_›

/-- A loop is safe when its rounds are. -/
theorem flatMap {α : Type*} {round : α → List (Op L P)} {l : List α}
    (h : ∀ x ∈ l, lv.Safe k held (round x)) : lv.Safe k held (l.flatMap round) := by
  induction l with
  | nil => exact nil
  | cons x l ih =>
    rw [List.flatMap_cons]
    exact (h x List.mem_cons_self).append (ih fun y hy => h y (List.mem_cons_of_mem x hy))

/-- A scope under a lock is safe when the lock is below those held and the scope is safe there. -/
theorem lockGuard {l : L} (hk : lv.lock l ≤ k) (hheld : ∀ h ∈ held, lv.lock l < lv.lock h)
    (h : lv.Safe k (l :: held) c) : lv.Safe k held (lockGuard l c) := by
  intro rest hrest
  refine ⟨hk, hheld, ?_⟩
  show lv.Disciplined k (l :: held) (c ++ [.unlock l] ++ rest)
  rw [List.append_assoc]
  apply h
  show lv.Disciplined k ((l :: held).erase l) rest
  rwa [List.erase_cons_head]

theorem request {p : P} (hk : lv.proc p < k) (hheld : ∀ h ∈ held, lv.proc p < lv.lock h) :
    lv.Safe k held [.request p] :=
  fun _ hrest => ⟨hk, hheld, hrest⟩

end Levels.Safe

/-- Every thread is disciplined at its level, and a thread that owes a reply has the level of the
    procedure requested. -/
structure Levels.Ordered (lv : Levels L P) (κ : ℕ → ℕ) (s : List (Thread L P)) : Prop where
  code : ∀ (i : ℕ) (t : Thread L P), s[i]? = some t → lv.Disciplined (κ i) t.held t.code
  awaits : ∀ (i : ℕ) (t : Thread L P) (j : ℕ), s[i]? = some t → t.awaits = some j →
    j < s.length ∧ ∃ p code, t.code = .request p :: code ∧ κ j = lv.proc p

variable {lv : Levels L P} {κ : ℕ → ℕ} {prog : Program L P} {s s' : List (Thread L P)}
  {a : Action P} {i j k : ℕ} {op op' : Op L P}

/-- Where a thread waits lies below all it holds, and not above its level. -/
theorem Levels.Ordered.rank_of_waits (hs : lv.Ordered κ s) {u : Thread L P} (hj : s[j]? = some u)
    (h : Waits s j op k) : (∀ l ∈ u.held, lv.rank op < 2 * lv.lock l) ∧ lv.rank op ≤ 2 * κ j := by
  have hu := hs.code j u hj
  cases h with
  | lock t _ l code _ hi hcode _ _ =>
    obtain rfl : u = t := Option.some.inj (hj.symm.trans hi)
    rw [hcode] at hu
    obtain ⟨hk, hheld, _⟩ := hu
    constructor
    · intro l' hl'
      have := hheld l' hl'
      show 2 * lv.lock l < 2 * lv.lock l'
      omega
    · show 2 * lv.lock l ≤ 2 * κ j
      omega
  | reply t _ p code _ hi hcode _ _ _ =>
    obtain rfl : u = t := Option.some.inj (hj.symm.trans hi)
    rw [hcode] at hu
    obtain ⟨hk, hheld, _⟩ := hu
    constructor
    · intro l' hl'
      have := hheld l' hl'
      show 2 * lv.proc p + 1 < 2 * lv.lock l'
      omega
    · show 2 * lv.proc p + 1 ≤ 2 * κ j
      omega

/-- Whoever is waited for waits further down. -/
theorem Levels.Ordered.rank_lt (hs : lv.Ordered κ s) (h : Waits s i op j)
    (h' : Waits s j op' k) : lv.rank op' < lv.rank op := by
  cases h with
  | lock t u l code _ hi hcode hj hheld => exact (hs.rank_of_waits hj h').1 l hheld
  | reply t u p code _ hi hcode hawaits hj _ =>
    obtain ⟨_, q, _, hq, hlevel⟩ := hs.awaits i t j hi hawaits
    rw [hcode] at hq
    cases hq
    have hrank := (hs.rank_of_waits hj h').2
    show lv.rank op' < 2 * lv.proc p + 1
    omega

/-- Among ordered threads the waiting ends. -/
theorem Levels.Ordered.not_deadlocked (hs : lv.Ordered κ s) : ¬ Deadlocked s := by
  rintro ⟨D, ⟨i, hi⟩, hD⟩
  have hdown : ∀ n i op j, j ∈ D → Waits s i op j → lv.rank op < n → False := by
    intro n
    induction n with
    | zero => intro i op j _ _ hn; omega
    | succ n ih =>
      intro i op j hj hw hn
      obtain ⟨op', k, hk, hw'⟩ := hD j hj
      have := hs.rank_lt hw hw'
      exact ih j op' k hk hw' (by omega)
  obtain ⟨op, j, hj, hw⟩ := hD i hi
  exact hdown _ i op j hj hw (Nat.lt_succ_self _)

/-! ### The order is kept -/

/-- A thread goes on with the rest of its path. -/
theorem Levels.Ordered.set (hs : lv.Ordered κ s) (t : Thread L P)
    (hcode : lv.Disciplined (κ i) t.held t.code)
    (hawaits : ∀ j, t.awaits = some j →
      j < s.length ∧ ∃ p code, t.code = .request p :: code ∧ κ j = lv.proc p) :
    lv.Ordered κ (s.set i t) := by
  constructor
  · intro i' t' hi'
    rw [List.getElem?_set] at hi'
    split at hi'
    · rename_i heq
      subst heq
      split at hi' <;> cases hi'
      exact hcode
    · exact hs.code i' t' hi'
  · intro i' t' j hi' hj
    rw [List.length_set]
    rw [List.getElem?_set] at hi'
    split at hi'
    · split at hi' <;> cases hi'
      exact hawaits j hj
    · exact hs.awaits i' t' j hi' hj

/-- A thread of a new procedure comes in behind the others, and nothing changes for them. -/
theorem Levels.Ordered.append {p : P} (hs : lv.Ordered κ s)
    (hp : lv.Disciplined (lv.proc p) [] (prog.body p)) :
    lv.Ordered (Function.update κ s.length (lv.proc p)) (s ++ [prog.begin p]) := by
  have hold : ∀ j, j < s.length → Function.update κ s.length (lv.proc p) j = κ j :=
    fun j hj => Function.update_of_ne (by omega) _ _
  constructor
  · intro i t hi
    rcases getElem?_concat hi with ⟨hlt, hi⟩ | ⟨rfl, rfl⟩
    · rw [hold i hlt]
      exact hs.code i t hi
    · rw [Function.update_self]
      exact hp
  · intro i t j hi hj
    rcases getElem?_concat hi with ⟨_, hi⟩ | ⟨_, rfl⟩
    · obtain ⟨hj', hreq⟩ := hs.awaits i t j hi hj
      rw [hold j hj', List.length_append]
      exact ⟨by omega, hreq⟩
    · cases hj

/-- A thread awaits a reply in front of a request only. -/
theorem Levels.Ordered.awaits_none (hs : lv.Ordered κ s) {t : Thread L P} (hi : s[i]? = some t)
    (hcode : ∀ p code, t.code ≠ .request p :: code) : t.awaits = none := by
  rcases hawaits : t.awaits with _ | j
  · rfl
  · obtain ⟨_, p, code, hp, _⟩ := hs.awaits i t j hi hawaits
    exact (hcode p code hp).elim

/-- **One step.** A step that starts disciplined procedures only keeps the threads ordered. -/
theorem Levels.Ordered.step (hs : lv.Ordered κ s) (h : step prog s a = some s')
    (ha : Starts (fun p => lv.Disciplined (lv.proc p) [] (prog.body p)) s a) :
    ∃ κ', lv.Ordered κ' s' := by
  cases step_cases h with
  | spawn p _ => exact ⟨_, hs.append (ha p rfl)⟩
  | lock i t l code hi hcode _ =>
    have ht := hs.code i t hi
    rw [hcode] at ht
    have hnone := hs.awaits_none hi (by simp [hcode])
    exact ⟨κ, hs.set _ ht.2.2 (by simp [hnone])⟩
  | unlock i t l code hi hcode =>
    have ht := hs.code i t hi
    rw [hcode] at ht
    have hnone := hs.awaits_none hi (by simp [hcode])
    exact ⟨κ, hs.set _ ht (by simp [hnone])⟩
  | request i t p code hi hcode hawaits =>
    have hp : lv.Disciplined (lv.proc p) [] (prog.body p) := by
      apply ha p
      obtain ⟨held, _, _⟩ := t
      subst hcode hawaits
      simp only [started, hi]
    -- the request comes in first, then its sender begins to wait for it
    have happ := hs.append hp
    have hlt : i < s.length := (List.getElem?_eq_some_iff.mp hi).1
    have hset := happ.set (i := i) { t with awaits := some s.length } ?_ ?_
    · rw [List.set_append_left _ _ hlt] at hset
      exact ⟨_, hset⟩
    · rw [Function.update_of_ne (by omega)]
      exact hs.code i t hi
    · intro j hj
      cases hj
      rw [List.length_append, List.length_singleton]
      exact ⟨by omega, p, code, hcode, Function.update_self ..⟩
  | reply i t p code j hi hcode _ _ =>
    have ht := hs.code i t hi
    rw [hcode] at ht
    exact ⟨κ, hs.set _ ht.2.2 (by rintro _ ⟨⟩)⟩

/-- **Lock order rule.** A run that starts disciplined procedures only does not deadlock. -/
theorem no_deadlock {A : P → Prop}
    (hA : ∀ p, A p → lv.Disciplined (lv.proc p) [] (prog.body p)) (hinit : lv.Ordered κ s)
    (h : Reaches (step prog) (Starts A) s s') : ¬ Deadlocked s' := by
  have hstep : ∀ t a t', (∃ κ', lv.Ordered κ' t) → Starts A t a → step prog t a = some t' →
      ∃ κ', lv.Ordered κ' t' := by
    rintro t a t' ⟨κ', ht⟩ ha hstep
    exact ht.step hstep fun p hp => hA p (ha p hp)
  obtain ⟨κ', hs'⟩ := h.invariant hstep ⟨κ, hinit⟩
  exact hs'.not_deadlocked

/-- A thread alone is ordered when its procedure is disciplined. -/
theorem Levels.ordered_singleton {p : P} (hp : lv.Disciplined (lv.proc p) [] (prog.body p)) :
    lv.Ordered (fun _ => lv.proc p) [prog.begin p] := by
  constructor
  · intro i t hi
    obtain rfl := List.mem_singleton.mp (List.mem_of_getElem? hi)
    exact hp
  · intro i t j hi hj
    obtain rfl := List.mem_singleton.mp (List.mem_of_getElem? hi)
    cases hj

end LockOrder
