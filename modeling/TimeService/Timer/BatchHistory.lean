import TimeService.Timer.Batch
import TimeService.Lib.Survivors

namespace TimeService

open RunningMax Survivors

/-!
# Batches over their whole history

A batch as the code keeps it, from one of its two constructors and through any calls of `Add` and
`Remove`.  `Batch.removeIf` is the loop of `Batch::Remove` as it stands: one pass that erases what
matches and accumulates start, end and flags of the rest, from `time_point::min()`,
`time_point::max()` and 0.  An alarm handed to a batch is a `StoredAlarm`: its times are
`time_point`s, so these bounds are bounds of them.

* `Batch.Tallied`: the invariant.  The bounds stand among the keys, so an empty batch is no special
  case of it;
* `Batch.Tallied.removeIf_eq`: on such a batch the pass is `Batch.remove`;
* `batch_representation`: what a batch is after any calls, in terms of the calls.
-/

/-! ### The batch of the source -/

/-- `t` is a value of `steady_clock::time_point`. -/
def IsTimePoint (t : ℤ) : Prop := timePointMin ≤ t ∧ t ≤ timePointMax

/-- An alarm whose times are `time_point`s. -/
structure StoredAlarm where
  info : TimerInfo
  when_fits : IsTimePoint info.whenElapsed
  maxWhen_fits : IsTimePoint info.maxWhenElapsed

/-- `Batch::Batch()`. -/
def Batch.new : Batch where
  start := timePointMin
  end_ := timePointMax
  flags := 0#32
  alarms := []

/-- The variables of the loop of `Batch::Remove`, with the alarms that it has not erased. -/
structure RemoveLoop where
  kept : List TimerInfo
  didRemove : Bool
  newStart : ℤ
  newEnd : ℤ
  newFlags : BitVec 32

/-- One turn of the loop. -/
def RemoveLoop.turn (predicate : TimerInfo → Bool) (loop : RemoveLoop) (alarm : TimerInfo) :
    RemoveLoop :=
  if predicate alarm then { loop with didRemove := true }
  else
    { loop with
      kept := loop.kept ++ [alarm]
      newStart :=
        if alarm.whenElapsed > loop.newStart then alarm.whenElapsed else loop.newStart
      newEnd :=
        if alarm.maxWhenElapsed < loop.newEnd then alarm.maxWhenElapsed else loop.newEnd
      newFlags := loop.newFlags ||| alarm.flags }

/-- `Batch::Remove(predicate)`. -/
def Batch.removeIf (b : Batch) (predicate : TimerInfo → Bool) : Batch × Bool :=
  let loop := b.alarms.foldl (RemoveLoop.turn predicate)
    ⟨[], false, timePointMin, timePointMax, 0#32⟩
  if loop.didRemove then
    (⟨loop.newStart, loop.newEnd, loop.newFlags, loop.kept⟩, loop.didRemove)
  else ({ b with alarms := loop.kept }, loop.didRemove)

/-- `TimerInfo::operator==`. -/
def TimerInfo.equals (a other : TimerInfo) : Bool := a.id = other.id

/-- `Batch::Remove(alarm)`. -/
def Batch.removeAlarm (b : Batch) (alarm : TimerInfo) : Batch × Bool :=
  b.removeIf fun a => a.equals alarm

/-! ### Histories -/

/-- A call on a batch that changes it. -/
inductive BatchCall
  | add (alarm : StoredAlarm)
  | remove (predicate : TimerInfo → Bool)
  | removeAlarm (alarm : TimerInfo)

def Batch.call (b : Batch) : BatchCall → Batch
  | .add alarm => (b.add alarm.info).1
  | .remove predicate => (b.removeIf predicate).1
  | .removeAlarm alarm => (b.removeAlarm alarm).1

/-- What the call does to the collection of alarms. -/
def BatchCall.edit : BatchCall → Edit TimerInfo
  | .add alarm => .add alarm.info
  | .remove predicate => .remove predicate
  | .removeAlarm alarm => .remove fun a => a.equals alarm

/-- The two constructors: `Batch()` without a seed, `Batch(seed)` with one. -/
def Batch.built : Option StoredAlarm → Batch
  | none => Batch.new
  | some seed => Batch.ofSeed seed.info

/-- The batch after the calls. -/
def Batch.after (seed : Option StoredAlarm) (calls : List BatchCall) : Batch :=
  calls.foldl Batch.call (Batch.built seed)

/-- The alarms added, the seed being the first, and not removed since. -/
def remainingAlarms (seed : Option StoredAlarm) (calls : List BatchCall) : List TimerInfo :=
  survivors (seed.toList.map (fun alarm => .add alarm.info) ++ calls.map BatchCall.edit)

/-- The batch stands for these alarms: it holds them in the order of `whenElapsed`, and start, end
    and flags are those of the alarms, the bounds and 0 when there are none. -/
structure Batch.Represents (b : Batch) (alarms : List TimerInfo) : Prop where
  holds : b.alarms.Perm alarms
  sorted : b.alarms.Pairwise (fun x y => x.whenElapsed ≤ y.whenElapsed)
  start_of_nil : alarms = [] → b.start = timePointMin
  start_greatest : alarms ≠ [] → IsGreatest (keys TimerInfo.whenElapsed alarms) b.start
  end_of_nil : alarms = [] → b.end_ = timePointMax
  end_least : alarms ≠ [] → IsLeast (keys TimerInfo.maxWhenElapsed alarms) b.end_
  flags_eq : b.flags = unionFlags alarms

/-! ### What the pass of `Remove` computes -/

/-- The loop from any state of its variables: each of them goes on over what is kept. -/
theorem removeLoop_eq (predicate : TimerInfo → Bool) (alarms : List TimerInfo)
    (loop : RemoveLoop) :
    alarms.foldl (RemoveLoop.turn predicate) loop
      = { kept := loop.kept ++ alarms.filter fun a => !predicate a
          didRemove := loop.didRemove || alarms.any predicate
          newStart := greatest TimerInfo.whenElapsed loop.newStart
            (alarms.filter fun a => !predicate a)
          newEnd := least TimerInfo.maxWhenElapsed loop.newEnd
            (alarms.filter fun a => !predicate a)
          newFlags := loop.newFlags ||| unionFlags (alarms.filter fun a => !predicate a) } := by
  induction alarms generalizing loop with
  | nil => simp
  | cons a as ih =>
    rw [List.foldl_cons, ih]
    cases hp : predicate a with
    | true => simp [RemoveLoop.turn, hp]
    | false => simp [RemoveLoop.turn, hp, BitVec.or_assoc]

/-- What `Remove` leaves. -/
theorem Batch.removeIf_alarms (b : Batch) (predicate : TimerInfo → Bool) :
    (b.removeIf predicate).1.alarms = b.alarms.filter fun a => !predicate a := by
  simp only [Batch.removeIf, removeLoop_eq]
  split <;> simp

/-- `Remove` returns true exactly when some alarm matched. -/
theorem Batch.removeIf_snd (b : Batch) (predicate : TimerInfo → Bool) :
    (b.removeIf predicate).2 = b.alarms.any predicate := by
  simp only [Batch.removeIf, removeLoop_eq]
  split <;> simp

/-- Without a match the batch stays as it is. -/
theorem Batch.removeIf_of_none {b : Batch} {predicate : TimerInfo → Bool}
    (hnone : b.alarms.any predicate = false) : (b.removeIf predicate).1 = b := by
  have hkept : (b.alarms.filter fun a => !predicate a) = b.alarms := by
    rw [List.filter_eq_self]
    intro a ha
    simpa using List.any_eq_false.mp hnone a ha
  simp only [Batch.removeIf, removeLoop_eq, hnone, hkept]
  rfl

/-- With a match start, end and flags are those of the loop. -/
theorem Batch.removeIf_of_any {b : Batch} {predicate : TimerInfo → Bool}
    (hany : b.alarms.any predicate = true) :
    (b.removeIf predicate).1
      = { start := greatest TimerInfo.whenElapsed timePointMin
            (b.alarms.filter fun a => !predicate a)
          end_ := least TimerInfo.maxWhenElapsed timePointMax
            (b.alarms.filter fun a => !predicate a)
          flags := unionFlags (b.alarms.filter fun a => !predicate a)
          alarms := b.alarms.filter fun a => !predicate a } := by
  simp only [Batch.removeIf, removeLoop_eq, hany]
  simp

/-! ### The invariant -/

/-- What the operations keep: the alarms are in order, start and end are the extreme ones of their
    times and the bounds, and flags is the union of their flags. -/
structure Batch.Tallied (b : Batch) : Prop where
  timePoints : ∀ a ∈ b.alarms, IsTimePoint a.whenElapsed ∧ IsTimePoint a.maxWhenElapsed
  sorted : b.alarms.Pairwise (fun x y => x.whenElapsed ≤ y.whenElapsed)
  start_greatest :
    IsGreatest (insert timePointMin (keys TimerInfo.whenElapsed b.alarms)) b.start
  end_least :
    IsLeast (insert timePointMax (keys TimerInfo.maxWhenElapsed b.alarms)) b.end_
  flags_eq : b.flags = unionFlags b.alarms

theorem Batch.new_tallied : Batch.new.Tallied where
  timePoints := by simp [Batch.new]
  sorted := by simp [Batch.new]
  start_greatest := by simp [Batch.new]
  end_least := by simp [Batch.new]
  flags_eq := rfl

theorem Batch.Tallied.add {b : Batch} (h : b.Tallied) (alarm : StoredAlarm) :
    (b.add alarm.info).1.Tallied := by
  refine ⟨?_, UpperBound.insertUpper_sorted _ _ _ h.sorted, ?_, ?_,
    b.add_flags alarm.info h.flags_eq⟩
  · intro a ha
    rcases List.mem_cons.mp ((b.add_alarms_perm alarm.info).subset ha) with rfl | hold
    · exact ⟨alarm.when_fits, alarm.maxWhen_fits⟩
    · exact h.timePoints a hold
  · -- the new key is one more turn over the bound and the keys
    rw [Batch.keys_add, Set.insert_comm]
    exact isGreatest_turn h.start_greatest alarm.info.whenElapsed
  · rw [Batch.keys_add, Set.insert_comm]
    exact isLeast_turn h.end_least alarm.info.maxWhenElapsed

/-- `Batch(seed)` is what adding the seed makes of `Batch()`, as its times are not outside the
    bounds. -/
theorem Batch.new_add (seed : StoredAlarm) :
    (Batch.new.add seed.info).1 = Batch.ofSeed seed.info := by
  have hstart : (Batch.new.add seed.info).1.start = seed.info.whenElapsed := by
    rw [Batch.add_start]
    exact max_eq_right seed.when_fits.1
  have hend : (Batch.new.add seed.info).1.end_ = seed.info.maxWhenElapsed := by
    have hle : seed.info.maxWhenElapsed ≤ timePointMax := seed.maxWhen_fits.2
    show (if seed.info.maxWhenElapsed < timePointMax then seed.info.maxWhenElapsed
      else timePointMax) = seed.info.maxWhenElapsed
    split <;> omega
  have hflags : (Batch.new.add seed.info).1.flags = seed.info.flags := BitVec.zero_or
  calc (Batch.new.add seed.info).1
      = ⟨(Batch.new.add seed.info).1.start, (Batch.new.add seed.info).1.end_,
          (Batch.new.add seed.info).1.flags, [seed.info]⟩ := rfl
    _ = Batch.ofSeed seed.info := by
      rw [hstart, hend, hflags]
      rfl

theorem Batch.built_tallied (seed : Option StoredAlarm) : (Batch.built seed).Tallied := by
  cases seed with
  | none => exact Batch.new_tallied
  | some seed =>
    have hadd : (Batch.new.add seed.info).1.Tallied := Batch.new_tallied.add seed
    rwa [Batch.new_add] at hadd

theorem Batch.Tallied.removeIf {b : Batch} (h : b.Tallied) (predicate : TimerInfo → Bool) :
    (b.removeIf predicate).1.Tallied := by
  cases hany : b.alarms.any predicate with
  | false =>
    rw [Batch.removeIf_of_none hany]
    exact h
  | true =>
    rw [Batch.removeIf_of_any hany]
    refine ⟨?_, h.sorted.filter _, ?_, ?_, rfl⟩
    · intro a ha
      exact h.timePoints a (List.mem_of_mem_filter ha)
    · rw [← Set.singleton_union]
      exact isGreatest_loop TimerInfo.whenElapsed isGreatest_singleton _
    · rw [← Set.singleton_union]
      exact isLeast_loop TimerInfo.maxWhenElapsed isLeast_singleton _

theorem Batch.Tallied.call {b : Batch} (h : b.Tallied) (call : BatchCall) :
    (b.call call).Tallied := by
  cases call with
  | add alarm => exact h.add alarm
  | remove predicate => exact h.removeIf predicate
  | removeAlarm alarm => exact h.removeIf fun a => a.equals alarm

theorem Batch.after_tallied (seed : Option StoredAlarm) (calls : List BatchCall) :
    (Batch.after seed calls).Tallied :=
  List.foldlRecOn calls Batch.call (Batch.built_tallied seed) fun _ hb call _ => hb.call call

/-! ### A tallied batch -/

/-- The start of a batch that holds something is the latest of the times themselves. -/
theorem Batch.Tallied.start_isGreatest {b : Batch} (h : b.Tallied) (hne : b.alarms ≠ []) :
    IsGreatest (keys TimerInfo.whenElapsed b.alarms) b.start :=
  isGreatest_keys_of_bound h.start_greatest (fun a ha => (h.timePoints a ha).1.1) hne

theorem Batch.Tallied.end_isLeast {b : Batch} (h : b.Tallied) (hne : b.alarms ≠ []) :
    IsLeast (keys TimerInfo.maxWhenElapsed b.alarms) b.end_ :=
  isLeast_keys_of_bound h.end_least (fun a ha => (h.timePoints a ha).2.2) hne

/-- A tallied batch that holds something is well formed. -/
theorem Batch.Tallied.wf {b : Batch} (h : b.Tallied) (hne : b.alarms ≠ []) : b.WF where
  nonempty := hne
  sorted := h.sorted
  start_greatest := h.start_isGreatest hne
  end_least := h.end_isLeast hne
  flags_eq := h.flags_eq

/-- From the bound or from the first alarm: the loop for the start ends the same. -/
theorem latestWhenElapsed_eq {alarms : List TimerInfo}
    (hmin : ∀ a ∈ alarms, timePointMin ≤ a.whenElapsed) :
    greatest TimerInfo.whenElapsed timePointMin alarms = latestWhenElapsed alarms := by
  cases alarms with
  | nil => rfl
  | cons a as =>
    have hfirst : (if timePointMin < a.whenElapsed then a.whenElapsed else timePointMin)
        = a.whenElapsed := by
      have := hmin a (by simp)
      split <;> omega
    rw [greatest_cons, hfirst]
    rfl

theorem earliestMaxWhenElapsed_eq {alarms : List TimerInfo}
    (hmax : ∀ a ∈ alarms, a.maxWhenElapsed ≤ timePointMax) :
    least TimerInfo.maxWhenElapsed timePointMax alarms = earliestMaxWhenElapsed alarms := by
  cases alarms with
  | nil => rfl
  | cons a as =>
    have hfirst : (if a.maxWhenElapsed < timePointMax then a.maxWhenElapsed else timePointMax)
        = a.maxWhenElapsed := by
      have := hmax a (by simp)
      split <;> omega
    rw [least_cons, hfirst]
    rfl

/-- On a tallied batch the pass of the source computes what `Batch.remove` says. -/
theorem Batch.Tallied.removeIf_eq {b : Batch} (h : b.Tallied) (predicate : TimerInfo → Bool) :
    b.removeIf predicate = b.remove predicate := by
  have hsnd : (b.removeIf predicate).2 = (b.remove predicate).2 := by
    rw [Batch.removeIf_snd, Batch.remove_snd]
  refine Prod.ext ?_ hsnd
  cases hany : b.alarms.any predicate with
  | false =>
    rw [Batch.removeIf_of_none hany]
    simp [Batch.remove, hany]
  | true =>
    have hkept : ∀ a ∈ b.alarms.filter fun a => !predicate a,
        IsTimePoint a.whenElapsed ∧ IsTimePoint a.maxWhenElapsed :=
      fun a ha => h.timePoints a (List.mem_of_mem_filter ha)
    rw [Batch.removeIf_of_any hany, latestWhenElapsed_eq fun a ha => (hkept a ha).1.1,
      earliestMaxWhenElapsed_eq fun a ha => (hkept a ha).2.2]
    simp [Batch.remove, hany]

theorem Batch.Tallied.represents {b : Batch} (h : b.Tallied) {alarms : List TimerInfo}
    (hperm : b.alarms.Perm alarms) : b.Represents alarms := by
  have hkeys : ∀ key : TimerInfo → ℤ, keys key b.alarms = keys key alarms :=
    fun key => keys_congr key fun x => hperm.mem_iff
  have hempty : alarms = [] → b.alarms = [] := by
    rintro rfl
    exact hperm.eq_nil
  have hfull : alarms ≠ [] → b.alarms ≠ [] := by
    intro hne hnil
    rw [hnil] at hperm
    exact hne hperm.symm.eq_nil
  refine ⟨hperm, h.sorted, ?_, ?_, ?_, ?_, ?_⟩
  · intro hnil
    have hstart := h.start_greatest
    rw [hempty hnil, keys_nil, insert_empty_eq] at hstart
    exact hstart.1
  · intro hne
    rw [← hkeys]
    exact h.start_isGreatest (hfull hne)
  · intro hnil
    have hend := h.end_least
    rw [hempty hnil, keys_nil, insert_empty_eq] at hend
    exact hend.1
  · intro hne
    rw [← hkeys]
    exact h.end_isLeast (hfull hne)
  · rw [h.flags_eq, unionFlags_perm hperm]

/-! ### The whole history -/

/-- Each call edits the alarms as it should. -/
theorem Batch.call_alarms_perm (b : Batch) (call : BatchCall) :
    (b.call call).alarms.Perm (call.edit.apply b.alarms) := by
  cases call with
  | add alarm => exact b.add_alarms_perm alarm.info
  | remove predicate =>
    show (b.removeIf predicate).1.alarms.Perm _
    rw [Batch.removeIf_alarms]
    exact List.Perm.refl _
  | removeAlarm alarm =>
    show (b.removeIf _).1.alarms.Perm _
    rw [Batch.removeIf_alarms]
    exact List.Perm.refl _

theorem Batch.after_alarms_perm (seed : Option StoredAlarm) (calls : List BatchCall) :
    (Batch.after seed calls).alarms.Perm (remainingAlarms seed calls) := by
  apply perm_survivors Batch.call_alarms_perm
  cases seed with
  | none => exact List.Perm.refl _
  | some seed => exact List.Perm.refl _

/-- An alarm with a window of its own that the batch can hold leaves a batch with a window. -/
theorem Batch.add_start_le_end {b : Batch} {alarm : TimerInfo} (hb : b.start ≤ b.end_)
    (halarm : alarm.whenElapsed ≤ alarm.maxWhenElapsed)
    (hhold : b.canHold alarm.whenElapsed alarm.maxWhenElapsed = true) :
    (b.add alarm).1.start ≤ (b.add alarm).1.end_ := by
  have hmeet : b.end_ > alarm.whenElapsed ∧ b.start ≤ alarm.maxWhenElapsed := by
    simpa [Batch.canHold] using hhold
  show (if alarm.whenElapsed > b.start then alarm.whenElapsed else b.start)
    ≤ (if alarm.maxWhenElapsed < b.end_ then alarm.maxWhenElapsed else b.end_)
  split <;> split <;> omega

/-- **Representation.** After any calls a batch stands for the alarms that were added to it and not
    removed since; `Remove` answers whether anything matches; and `Add` keeps the start before the
    end when the batch can hold the alarm. -/
theorem batch_representation (seed : Option StoredAlarm) (calls : List BatchCall) :
    (Batch.after seed calls).Represents (remainingAlarms seed calls) ∧
    (∀ predicate, ((Batch.after seed calls).removeIf predicate).2 = true ↔
      ∃ a ∈ remainingAlarms seed calls, predicate a = true) ∧
    (∀ alarm, ((Batch.after seed calls).removeAlarm alarm).2 = true ↔
      ∃ a ∈ remainingAlarms seed calls, a.equals alarm = true) ∧
    (∀ alarm : StoredAlarm, (Batch.after seed calls).start ≤ (Batch.after seed calls).end_ →
      alarm.info.whenElapsed ≤ alarm.info.maxWhenElapsed →
      (Batch.after seed calls).canHold alarm.info.whenElapsed alarm.info.maxWhenElapsed = true →
      ((Batch.after seed calls).add alarm.info).1.start
        ≤ ((Batch.after seed calls).add alarm.info).1.end_) := by
  have hperm := Batch.after_alarms_perm seed calls
  have hremove : ∀ predicate, ((Batch.after seed calls).removeIf predicate).2 = true ↔
      ∃ a ∈ remainingAlarms seed calls, predicate a = true := by
    intro predicate
    rw [Batch.removeIf_snd, List.any_eq_true]
    simp only [hperm.mem_iff]
  refine ⟨(Batch.after_tallied seed calls).represents hperm, hremove, ?_, ?_⟩
  · intro alarm
    exact hremove fun a => a.equals alarm
  · intro alarm hb halarm hhold
    exact Batch.add_start_le_end hb halarm hhold

end TimeService
