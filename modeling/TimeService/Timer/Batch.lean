import TimeService.Timer.Info
import TimeService.Lib.UpperBound
import TimeService.Lib.RunningMax

namespace TimeService

/-!
# Batches of alarms

`batch.h` and `batch.cpp`.  A batch holds alarms that fire together, at its start: `start` is
the latest `whenElapsed` of its members, `end_` the earliest `maxWhenElapsed` and `flags` the
union of their flags.  `Batch.WF` says so for a batch that holds something, and the rest of the
file shows that seeding, adding and removing keep it.

`time_point::min()` and `time_point::max()` lie below and above every time, so a fold from
them over a list that is not empty is the plain maximum or minimum; they are the value only of
a batch that holds nothing.
-/

/-- `steady_clock::time_point::min()`. -/
def timePointMin : ℤ := -2 ^ 63

/-- `steady_clock::time_point::max()`. -/
def timePointMax : ℤ := 2 ^ 63 - 1

/-- `Batch`. -/
structure Batch where
  start : ℤ
  end_ : ℤ
  flags : BitVec 32
  alarms : List TimerInfo
deriving DecidableEq, Repr

/-- `Batch::Batch(const TimerInfo &seed)`. -/
def Batch.ofSeed (seed : TimerInfo) : Batch where
  start := seed.whenElapsed
  end_ := seed.maxWhenElapsed
  flags := seed.flags
  alarms := [seed]

/-- `Batch::CanHold`. -/
def Batch.canHold (b : Batch) (whenElapsed maxWhen : ℤ) : Bool :=
  b.end_ > whenElapsed ∧ b.start ≤ maxWhen

/-- `Batch::Add`: the batch with the alarm in it, and whether its start has moved. -/
def Batch.add (b : Batch) (alarm : TimerInfo) : Batch × Bool :=
  ({ start := if alarm.whenElapsed > b.start then alarm.whenElapsed else b.start
     end_ := if alarm.maxWhenElapsed < b.end_ then alarm.maxWhenElapsed else b.end_
     flags := b.flags ||| alarm.flags
     alarms := UpperBound.insertUpper TimerInfo.whenElapsed b.alarms alarm },
   alarm.whenElapsed > b.start)

/-- The `newStart` that `Batch::Remove` accumulates over the alarms it keeps. -/
def latestWhenElapsed : List TimerInfo → ℤ
  | [] => timePointMin
  | a :: as =>
    as.foldl (fun newStart x => if x.whenElapsed > newStart then x.whenElapsed else newStart)
      a.whenElapsed

/-- The `newEnd` that `Batch::Remove` accumulates over the alarms it keeps. -/
def earliestMaxWhenElapsed : List TimerInfo → ℤ
  | [] => timePointMax
  | a :: as =>
    as.foldl (fun newEnd x => if x.maxWhenElapsed < newEnd then x.maxWhenElapsed else newEnd)
      a.maxWhenElapsed

/-- The `newFlags` that `Batch::Remove` accumulates over the alarms it keeps. -/
def unionFlags (alarms : List TimerInfo) : BitVec 32 :=
  alarms.foldl (fun newFlags x => newFlags ||| x.flags) 0#32

/-- `Batch::Remove(predicate)`: the batch without the matching alarms, and whether there were
    any.  Start, end and flags are recomputed only when something was removed. -/
def Batch.remove (b : Batch) (predicate : TimerInfo → Bool) : Batch × Bool :=
  let kept := b.alarms.filter fun a => !predicate a
  if b.alarms.any predicate then
    ({ start := latestWhenElapsed kept
       end_ := earliestMaxWhenElapsed kept
       flags := unionFlags kept
       alarms := kept }, true)
  else (b, false)

/-- `Batch::HasWakeups`: some member's type has the non-wakeup bit clear. -/
def Batch.hasWakeups (b : Batch) : Bool :=
  b.alarms.any fun item => BitVec.ofInt 32 item.type &&& 1#32 = 0#32

/-! ### The representation invariant -/

/-- What start, end and flags of a batch that holds something are: the latest `whenElapsed`, the
    earliest `maxWhenElapsed` and the union of the flags of its members, which are kept in the
    order of `whenElapsed`. -/
structure Batch.WF (b : Batch) : Prop where
  nonempty : b.alarms ≠ []
  sorted : b.alarms.Pairwise (fun x y => x.whenElapsed ≤ y.whenElapsed)
  start_greatest : IsGreatest (RunningMax.keys TimerInfo.whenElapsed b.alarms) b.start
  end_least : IsLeast (RunningMax.keys TimerInfo.maxWhenElapsed b.alarms) b.end_
  flags_eq : b.flags = unionFlags b.alarms

/-- A batch never starts before a member's `whenElapsed`. -/
theorem Batch.WF.whenElapsed_le_start {b : Batch} (h : b.WF) {a : TimerInfo} (ha : a ∈ b.alarms) :
    a.whenElapsed ≤ b.start :=
  h.start_greatest.2 ⟨a, ha, rfl⟩

/-- The start of a batch is some member's `whenElapsed`. -/
theorem Batch.WF.exists_start {b : Batch} (h : b.WF) : ∃ a ∈ b.alarms, a.whenElapsed = b.start :=
  h.start_greatest.1

theorem Batch.WF.end_le_maxWhenElapsed {b : Batch} (h : b.WF) {a : TimerInfo}
    (ha : a ∈ b.alarms) : b.end_ ≤ a.maxWhenElapsed :=
  h.end_least.2 ⟨a, ha, rfl⟩

theorem Batch.WF.exists_end {b : Batch} (h : b.WF) : ∃ a ∈ b.alarms, a.maxWhenElapsed = b.end_ :=
  h.end_least.1

/-! ### Flags -/

private theorem foldl_or_eq (alarms : List TimerInfo) (f : BitVec 32) :
    alarms.foldl (fun newFlags x => newFlags ||| x.flags) f = f ||| unionFlags alarms := by
  induction alarms generalizing f with
  | nil => simp [unionFlags]
  | cons a as ih =>
    have hcons : unionFlags (a :: as) = a.flags ||| unionFlags as := by
      show as.foldl (fun newFlags x => newFlags ||| x.flags) (0#32 ||| a.flags) = _
      rw [ih, BitVec.zero_or]
    rw [List.foldl_cons, ih, hcons, BitVec.or_assoc]

@[simp] theorem unionFlags_nil : unionFlags [] = 0#32 := rfl

@[simp] theorem unionFlags_cons (a : TimerInfo) (as : List TimerInfo) :
    unionFlags (a :: as) = a.flags ||| unionFlags as := by
  rw [unionFlags, List.foldl_cons, foldl_or_eq, BitVec.zero_or]

theorem unionFlags_perm {as bs : List TimerInfo} (h : as.Perm bs) :
    unionFlags as = unionFlags bs := by
  induction h with
  | nil => rfl
  | cons a _ ih => simp only [unionFlags_cons, ih]
  | swap a b l =>
    simp only [unionFlags_cons, ← BitVec.or_assoc]
    rw [BitVec.or_comm b.flags]
  | trans _ _ ih₁ ih₂ => rw [ih₁, ih₂]

/-- A mask misses the union of the flags exactly when it misses the flags of every alarm. -/
theorem unionFlags_and_eq_zero (as : List TimerInfo) (mask : BitVec 32) :
    unionFlags as &&& mask = 0#32 ↔ ∀ a ∈ as, a.flags &&& mask = 0#32 := by
  induction as with
  | nil => simp
  | cons a as ih =>
    rw [unionFlags_cons, BitVec.and_or_distrib_right, BitVec.or_eq_zero_iff, ih]
    simp

/-! ### The operations keep the invariant -/

theorem Batch.ofSeed_wf (seed : TimerInfo) : (Batch.ofSeed seed).WF where
  nonempty := by simp [Batch.ofSeed]
  sorted := by simp [Batch.ofSeed]
  start_greatest := RunningMax.isGreatest_greatest TimerInfo.whenElapsed seed []
  end_least := RunningMax.isLeast_least TimerInfo.maxWhenElapsed seed []
  flags_eq := by simp [Batch.ofSeed]

@[simp] theorem Batch.ofSeed_alarms (seed : TimerInfo) : (Batch.ofSeed seed).alarms = [seed] := rfl

@[simp] theorem Batch.ofSeed_start (seed : TimerInfo) :
    (Batch.ofSeed seed).start = seed.whenElapsed := rfl

theorem Batch.add_alarms_perm (b : Batch) (alarm : TimerInfo) :
    (b.add alarm).1.alarms.Perm (alarm :: b.alarms) :=
  UpperBound.insertUpper_perm _ _ _

theorem Batch.add_start (b : Batch) (alarm : TimerInfo) :
    (b.add alarm).1.start = max b.start alarm.whenElapsed := by
  show (if alarm.whenElapsed > b.start then alarm.whenElapsed else b.start) = _
  split <;> omega

/-- `Add` reports whether the start has moved. -/
theorem Batch.add_start_of_not_new {b : Batch} {alarm : TimerInfo} (h : (b.add alarm).2 = false) :
    (b.add alarm).1.start = b.start := by
  have hle : ¬ alarm.whenElapsed > b.start := by simpa [Batch.add] using h
  rw [Batch.add_start]
  omega

/-- `Add` puts the alarm's key among the keys. -/
theorem Batch.keys_add (b : Batch) (alarm : TimerInfo) (key : TimerInfo → ℤ) :
    RunningMax.keys key (b.add alarm).1.alarms
      = insert (key alarm) (RunningMax.keys key b.alarms) := by
  rw [← RunningMax.keys_cons]
  exact RunningMax.keys_congr key fun x => (b.add_alarms_perm alarm).mem_iff

theorem Batch.add_flags (b : Batch) (alarm : TimerInfo) (h : b.flags = unionFlags b.alarms) :
    (b.add alarm).1.flags = unionFlags (b.add alarm).1.alarms := by
  show b.flags ||| alarm.flags = _
  rw [unionFlags_perm (b.add_alarms_perm alarm), unionFlags_cons, h, BitVec.or_comm]

theorem Batch.add_wf {b : Batch} (h : b.WF) (alarm : TimerInfo) : (b.add alarm).1.WF := by
  refine ⟨?_, UpperBound.insertUpper_sorted _ _ _ h.sorted, ?_, ?_, b.add_flags alarm h.flags_eq⟩
  · intro hnil
    have hmem : alarm ∈ (b.add alarm).1.alarms := (b.add_alarms_perm alarm).symm.subset (by simp)
    simp [hnil] at hmem
  · -- `start` and `end_` take one more member in, like a turn of the loop
    rw [Batch.keys_add]
    exact RunningMax.isGreatest_turn h.start_greatest alarm.whenElapsed
  · rw [Batch.keys_add]
    exact RunningMax.isLeast_turn h.end_least alarm.maxWhenElapsed

/-- What `Remove` leaves, whether or not it recomputes the batch. -/
theorem Batch.remove_alarms (b : Batch) (predicate : TimerInfo → Bool) :
    (b.remove predicate).1.alarms = b.alarms.filter fun a => !predicate a := by
  unfold Batch.remove
  split
  · rfl
  · -- nothing matched, so the filter keeps everything
    rename_i hnone
    rw [List.any_eq_true] at hnone
    symm
    rw [List.filter_eq_self]
    intro a ha
    simpa using fun hp => hnone ⟨a, ha, hp⟩

/-- `Remove` returns true exactly when some alarm matched. -/
theorem Batch.remove_snd (b : Batch) (predicate : TimerInfo → Bool) :
    (b.remove predicate).2 = b.alarms.any predicate := by
  unfold Batch.remove
  split <;> simp_all

theorem Batch.remove_wf {b : Batch} (h : b.WF) (predicate : TimerInfo → Bool)
    (hkept : (b.remove predicate).1.alarms ≠ []) : (b.remove predicate).1.WF := by
  rw [Batch.remove_alarms] at hkept
  unfold Batch.remove
  split
  · -- something was removed: start, end and flags are folds over what is kept
    obtain ⟨a, as, hcons⟩ := List.exists_cons_of_ne_nil hkept
    refine ⟨hkept, h.sorted.filter _, ?_, ?_, rfl⟩
    · simp only [hcons]
      exact RunningMax.isGreatest_greatest TimerInfo.whenElapsed a as
    · simp only [hcons]
      exact RunningMax.isLeast_least TimerInfo.maxWhenElapsed a as
  · exact h

end TimeService
