import TimeService.Lib.Congruential
import TimeService.Timer.Start
import Mathlib.Tactic.NormNum.Prime
import Mathlib.Tactic.ReduceModChar

namespace TimeService

open Congruential Transition

/-!
# The numbers of the timers

`TimerManager::CreateTimer` draws the number of a timer from `random_`, before it takes
`entryMapMutex_`, and inserts the entry under the lock.  `std::default_random_engine` is
`minstd_rand` in libc++ and `minstd_rand0` in libstdc++: multiplicative congruential generators with
the modulus `2^31 - 1`.  A draw is one step here: nothing protects `random_` from two draws at once.

* `timer_numbers_new`: for every seed, as long as fewer than `2^31 - 1` numbers are drawn, every
  caller of `CreateTimer` gets a timer of its own, and no number is given twice, also after the
  timer that had it has been destroyed.
-/

/-- The modulus of both engines. -/
def minstdModulus : ℕ := 2147483647

/-- `std::default_random_engine`, with its state. -/
structure DefaultRandomEngine where
  multiplier : ℕ
  state : ℕ
  known : multiplier = 48271 ∨ multiplier = 16807
  pos : 0 < state
  lt : state < minstdModulus

/-- The prime factors of `2^31 - 2`. -/
def minstdFactors : List ℕ := [2, 3, 3, 7, 11, 31, 151, 331]

theorem minstdFactors_prime : ∀ q ∈ minstdFactors, q.Prime := by
  simp only [minstdFactors, List.forall_mem_cons]
  norm_num

/-- Fermat's power of a multiplier. -/
theorem minstd_pow {a : ℕ} (h : a = 48271 ∨ a = 16807) :
    (a : ZMod 2147483647) ^ 2147483646 = 1 := by
  rcases h with rfl | rfl
  · push_cast
    reduce_mod_char
  · push_cast
    reduce_mod_char

/-- The powers that show that its order is no smaller. -/
theorem minstd_pow_div {a : ℕ} (h : a = 48271 ∨ a = 16807) :
    ∀ q ∈ minstdFactors, (a : ZMod 2147483647) ^ (2147483646 / q) ≠ 1 := by
  simp only [minstdFactors, List.forall_mem_cons]
  refine ⟨?_, ?_, ?_, ?_, ?_, ?_, ?_, ?_, fun _ h => by cases h⟩ <;>
    rcases h with rfl | rfl <;> norm_num only <;> reduce_mod_char <;> decide +kernel

/-- Both multipliers have a full period. -/
theorem fullPeriod_minstd {a : ℕ} (h : a = 48271 ∨ a = 16807) : FullPeriod a minstdModulus :=
  fullPeriod_of_factors (by decide) minstdFactors_prime (by decide) (minstd_pow h)
    (minstd_pow_div h)

/-- `operator()`: the next state, which is also what it returns. -/
def DefaultRandomEngine.next (e : DefaultRandomEngine) : DefaultRandomEngine where
  multiplier := e.multiplier
  state := Congruential.next e.multiplier minstdModulus e.state
  known := e.known
  pos := (fullPeriod_minstd e.known).next_pos e.pos e.lt
  lt := (fullPeriod_minstd e.known).next_lt

/-- The engine that is constructed from a number; a multiple of the modulus is replaced by 1. -/
def DefaultRandomEngine.seed (multiplier : ℕ) (known : multiplier = 48271 ∨ multiplier = 16807)
    (value : ℕ) : DefaultRandomEngine where
  multiplier := multiplier
  state := if value % minstdModulus = 0 then 1 else value % minstdModulus
  known := known
  pos := by split <;> omega
  lt := by
    split
    · decide
    · exact Nat.mod_lt _ (by decide)

/-! ### Draws and insertions -/

/-- The arguments of a call of `CreateTimer`. -/
structure CreateCall where
  type : ℤ
  windowLength : ℕ
  interval : ℕ
  flag : ℤ
  callback : Callback
  uid : ℤ

/-- `TimerManager` with `random_`, and the calls of `CreateTimer` that have drawn their number and
    wait for the lock.  How many numbers have been drawn and which have been returned is history. -/
structure NumberedManager where
  manager : System
  random : DefaultRandomEngine
  drawn : List (ℕ × CreateCall)
  draws : ℕ
  issued : List ℕ

/-- A new manager; its engine has been seeded with the time. -/
def NumberedManager.init (bootTime : ℤ) (random : DefaultRandomEngine) : NumberedManager :=
  ⟨.init bootTime, random, [], 0, []⟩

/-- A call draws its number; a call that has the lock inserts its entry; or the manager does
    something else. -/
inductive NumberedAction
  | draw (call : CreateCall)
  | insert (place : ℕ)
  | other (action : Action)

/-- The action is an insertion. -/
def Action.creates : Action → Bool
  | .createTimer _ _ _ _ _ _ _ => true
  | _ => false

/-- The insertion of a call under its number. -/
def CreateCall.action (call : CreateCall) (timerNumber : ℕ) : Action :=
  .createTimer [timerNumber] call.type call.windowLength call.interval call.flag call.callback
    call.uid

/-- One step. -/
def NumberedManager.step (s : NumberedManager) : NumberedAction → Option NumberedManager
  | .draw call =>
    some { s with
      random := s.random.next
      drawn := s.drawn ++ [(s.random.next.state, call)]
      draws := s.draws + 1 }
  | .insert place =>
    s.drawn[place]?.bind fun entry =>
      (s.manager.step (entry.2.action entry.1)).map fun manager =>
        { s with
          manager := manager
          drawn := s.drawn.eraseIdx place
          issued := s.issued ++ [entry.1] }
  | .other action =>
    if action.creates then none
    else (s.manager.step action).map fun manager => { s with manager := manager }

/-- The draws stay within one period. -/
def WithinPeriod (s : NumberedManager) : NumberedAction → Prop
  | .draw _ => s.draws < minstdModulus - 1
  | _ => True

/-- The number of the draw at a place, the first one being 0. -/
def DefaultRandomEngine.number (e : DefaultRandomEngine) (k : ℕ) : ℕ :=
  Congruential.state e.multiplier minstdModulus e.state (k + 1)

/-- What the numbers of a run are: those returned and those of the calls that wait for the lock are
    the numbers drawn so far, and the keys of the table are among those returned. -/
structure Numbered (e : DefaultRandomEngine) (s : NumberedManager) : Prop where
  multiplier : s.random.multiplier = e.multiplier
  state : s.random.state = Congruential.state e.multiplier minstdModulus e.state s.draws
  numbers : (s.issued ++ s.drawn.map Prod.fst).Perm ((List.range s.draws).map e.number)
  keys : ∀ timerNumber ∈ s.manager.timerEntryMap, timerNumber ∈ s.issued
  period : s.draws ≤ minstdModulus - 1

section
variable {e : DefaultRandomEngine} {s s' : NumberedManager}

/-- The numbers of one period are all different. -/
theorem DefaultRandomEngine.number_injOn (e : DefaultRandomEngine) :
    Set.InjOn e.number (Set.Iio (minstdModulus - 1)) := by
  intro i hi j hj heq
  unfold DefaultRandomEngine.number at heq
  rw [← state_next, ← state_next] at heq
  exact (fullPeriod_minstd e.known).state_injOn e.next.pos e.next.lt hi hj heq

/-- No number has been drawn twice. -/
theorem Numbered.nodup (h : Numbered e s) : (s.issued ++ s.drawn.map Prod.fst).Nodup := by
  rw [h.numbers.nodup_iff]
  apply List.Nodup.map_on _ List.nodup_range
  intro i hi j hj heq
  have hperiod := h.period
  rw [List.mem_range] at hi hj
  exact e.number_injOn (Set.mem_Iio.mpr (by omega)) (Set.mem_Iio.mpr (by omega)) heq

theorem Numbered.init (bootTime : ℤ) (e : DefaultRandomEngine) :
    Numbered e (.init bootTime e) where
  multiplier := rfl
  state := rfl
  numbers := List.Perm.nil
  keys := fun timerNumber h => by
    have hempty : (∅ : AList fun _ : ℕ => TimerEntry).lookup timerNumber = none := rfl
    exact absurd h (AList.lookup_eq_none.mp hempty)
  period := Nat.zero_le _

/-- An entry that is there after a step was there before it, or its number has been inserted. -/
theorem System.step_keys {t t' : System} {a : Action} (h : t.step a = some t') {timerNumber : ℕ}
    (hother : NotCreating timerNumber t a) (hmem : timerNumber ∈ t'.timerEntryMap) :
    timerNumber ∈ t.timerEntryMap := by
  by_contra hno
  have hnone := (System.stepCase h).lookup_eq_none hother (AList.lookup_eq_none.mpr hno)
  exact AList.lookup_eq_none.mp hnone hmem

/-- An insertion inserts the number that its call has drawn. -/
theorem CreateCall.notCreating (call : CreateCall) {t : System} {drawn timerNumber : ℕ}
    (hne : timerNumber ≠ drawn) : NotCreating timerNumber t (call.action drawn) := by
  intro randoms type windowLength interval flag callback uid heq hfind
  injection heq with hrandoms
  rw [← hrandoms] at hfind
  exact hne (List.mem_singleton.mp (List.mem_of_find?_eq_some hfind))

/-- A draw takes the next number. -/
theorem Numbered.draw (h : Numbered e s) {call : CreateCall}
    (hperiod : s.draws < minstdModulus - 1) (hstep : s.step (.draw call) = some s') :
    Numbered e s' := by
  cases hstep
  have hnext : s.random.next.state = e.number s.draws := by
    show Congruential.next s.random.multiplier minstdModulus s.random.state = _
    rw [h.multiplier, h.state]
    rfl
  refine ⟨h.multiplier, hnext, ?_, h.keys, hperiod⟩
  show (s.issued ++ (s.drawn ++ [(s.random.next.state, call)]).map Prod.fst).Perm
    ((List.range (s.draws + 1)).map e.number)
  rw [List.range_succ, List.map_append, List.map_append, ← List.append_assoc, hnext]
  exact h.numbers.append_right _

/-- What an insertion does. -/
theorem NumberedManager.step_insert {place : ℕ} (hstep : s.step (.insert place) = some s') :
    ∃ entry manager, s.drawn[place]? = some entry ∧
      s.manager.step (entry.2.action entry.1) = some manager ∧
      s' = ⟨manager, s.random, s.drawn.eraseIdx place, s.draws, s.issued ++ [entry.1]⟩ := by
  obtain ⟨entry, hentry, hrest⟩ := Option.bind_eq_some_iff.mp hstep
  obtain ⟨manager, hmanager, rfl⟩ := Option.map_eq_some_iff.mp hrest
  exact ⟨entry, manager, hentry, hmanager, rfl⟩

/-- The number of a call that waits for the lock has not been returned to anyone. -/
theorem Numbered.not_mem_issued (h : Numbered e s) {place : ℕ} {entry : ℕ × CreateCall}
    (hentry : s.drawn[place]? = some entry) : entry.1 ∉ s.issued := by
  intro hissued
  have hdrawn : entry.1 ∈ s.drawn.map Prod.fst :=
    List.mem_map_of_mem (List.mem_of_getElem? hentry)
  exact (List.nodup_append.mp h.nodup).2.2 _ hissued _ hdrawn rfl

/-- An insertion moves its number from those drawn to those returned. -/
theorem Numbered.insert (h : Numbered e s) {place : ℕ}
    (hstep : s.step (.insert place) = some s') : Numbered e s' := by
  obtain ⟨entry, manager, hentry, hmanager, rfl⟩ := NumberedManager.step_insert hstep
  refine ⟨h.multiplier, h.state, ?_, fun k hk => ?_, h.period⟩
  · show ((s.issued ++ [entry.1]) ++ (s.drawn.eraseIdx place).map Prod.fst).Perm _
    obtain ⟨hlt, rfl⟩ := List.getElem?_eq_some_iff.mp hentry
    have hperm := (List.getElem_cons_eraseIdx_perm hlt).map Prod.fst
    rw [List.append_assoc]
    exact (hperm.append_left s.issued).trans h.numbers
  · rw [List.mem_append]
    by_cases hnew : k = entry.1
    · exact .inr (List.mem_singleton.mpr hnew)
    · exact .inl (h.keys k (System.step_keys hmanager (entry.2.notCreating hnew) hk))

/-- Every step within the period keeps the numbers in order. -/
theorem Numbered.step (h : Numbered e s) {a : NumberedAction} (hperiod : WithinPeriod s a)
    (hstep : s.step a = some s') : Numbered e s' := by
  cases a with
  | draw call => exact h.draw hperiod hstep
  | insert place => exact h.insert hstep
  | other action =>
    unfold NumberedManager.step at hstep
    dsimp only at hstep
    split at hstep
    · cases hstep
    · rename_i hcreates
      obtain ⟨manager, hmanager, rfl⟩ := Option.map_eq_some_iff.mp hstep
      refine ⟨h.multiplier, h.state, h.numbers, fun timerNumber hmem => ?_, h.period⟩
      apply h.keys
      apply System.step_keys hmanager _ hmem
      rintro randoms type windowLength interval flag callback uid rfl
      exact absurd rfl hcreates

end

/-- Every number of an engine is one of its states. -/
theorem DefaultRandomEngine.number_bounds (e : DefaultRandomEngine) (k : ℕ) :
    0 < e.number k ∧ e.number k < minstdModulus := by
  induction k with
  | zero => exact ⟨e.next.pos, e.next.lt⟩
  | succ k ih =>
    exact ⟨(fullPeriod_minstd e.known).next_pos ih.1 ih.2, (fullPeriod_minstd e.known).next_lt⟩

/-- An insertion under a number that is not in the table. -/
theorem newTimer_of_unused {t t' : System} {call : CreateCall} {timerNumber : ℕ}
    (h : t.step (call.action timerNumber) = some t')
    (hunused : timerNumber ∉ t.timerEntryMap) :
    NewTimer t t' timerNumber call.type call.windowLength call.interval call.flag call.callback
      call.uid := by
  obtain ⟨drawn, hnumber, hdrawn, rfl⟩ := System.step_createTimer h
  obtain rfl := List.mem_singleton.mp (List.mem_of_find?_eq_some hdrawn)
  refine ⟨hnumber, AList.lookup_eq_none.mpr hunused, ?_, fun k hk => ?_⟩
  · rw [System.createTimer_lookup, if_pos ⟨rfl, hunused⟩]
  · rw [System.createTimer_lookup, if_neg fun hold => hk hold.1]

/-- **Timers of their own.** Whatever the seed: in every run that draws fewer than `2^31 - 1`
    numbers, in which any number of calls of `CreateTimer` are between their draw and the lock,
    timers are started, stopped and destroyed and alarms go off, every insertion gives its caller a
    timer of its own, and no number is ever given twice. -/
theorem timer_numbers_new {bootTime : ℤ} {random : DefaultRandomEngine} {s : NumberedManager}
    (hrun : Reaches NumberedManager.step WithinPeriod (.init bootTime random) s) :
    s.issued.Nodup ∧ (∀ timerNumber ∈ s.issued, 0 < timerNumber ∧ timerNumber < minstdModulus) ∧
      ∀ place s', s.step (.insert place) = some s' →
        ∃ entry, s.drawn[place]? = some entry ∧
          NewTimer s.manager s'.manager entry.1 entry.2.type entry.2.windowLength entry.2.interval
            entry.2.flag entry.2.callback entry.2.uid := by
  have hnumbered : Numbered random s :=
    hrun.invariant (fun _ _ _ h hok hstep => h.step hok hstep) (.init bootTime random)
  refine ⟨(List.nodup_append.mp hnumbered.nodup).1, fun timerNumber hissued => ?_,
    fun place s' hstep => ?_⟩
  · have hmem := hnumbered.numbers.subset (List.mem_append_left _ hissued)
    obtain ⟨k, -, rfl⟩ := List.mem_map.mp hmem
    exact random.number_bounds k
  · obtain ⟨entry, manager, hentry, hmanager, rfl⟩ := NumberedManager.step_insert hstep
    exact ⟨entry, hentry, newTimer_of_unused hmanager fun hused =>
      hnumbered.not_mem_issued hentry (hnumbered.keys _ hused)⟩

/-- Two calls draw with the seed 1 and come to the lock in the other order. -/
theorem timer_numbers_new_two :
    ∃ s : NumberedManager, s.issued = [182605794, 48271] ∧ s.issued.Nodup := by
  have hrun := @exists_reaches_of_runWhen _ _ NumberedManager.step WithinPeriod
    (.init 0 (.seed 48271 (.inl rfl) 1))
    (fun s _ => decide (s.draws < minstdModulus - 1)) (fun s a h => by
      cases a with
      | draw call => exact (of_decide_eq_true h : s.draws < minstdModulus - 1)
      | _ => trivial)
    [.draw ⟨3, 0, 0, 0, none, 10⟩, .draw ⟨3, 0, 0, 0, none, 11⟩, .insert 1, .insert 0]
    (fun s => decide (s.issued = [182605794, 48271])) (by decide +kernel)
  obtain ⟨s, hs, hcheck⟩ := hrun
  exact ⟨s, of_decide_eq_true hcheck, (timer_numbers_new hs).1⟩

end TimeService
