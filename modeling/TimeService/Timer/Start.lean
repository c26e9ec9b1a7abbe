import TimeService.Timer.Agreement
import TimeService.Timer.SetHandler

namespace TimeService

open Transition

/-!
# What the calls on the timer table answer

`TimerManager::CreateTimer` returns a number, `TimerManager::StartTimer` a `bool`.  Here the
answers are compared with what the calls have done:

* `create_fresh_iff`: the number returned is a new one exactly when the number drawn is;
* `start_truthful_iff`: the answer true means that the alarm is pending exactly when the trigger
  time had not passed at the call.
-/

/-! ### `CreateTimer` -/

/-- The number `CreateTimer` returns: the first one drawn that is not zero. -/
def createTimerResult (randoms : List ℕ) : Option ℕ :=
  randoms.find? fun timerNumber => timerNumber ≠ 0

/-- A timer of its own for the caller of `CreateTimer`: the number is new, its entry is that of the
    call, and no other entry has changed. -/
structure NewTimer (s s' : System) (timerNumber : ℕ) (type : ℤ) (windowLength interval : ℕ)
    (flag : ℤ) (callback : Callback) (uid : ℤ) : Prop where
  nonzero : timerNumber ≠ 0
  unused : s.timerEntryMap.lookup timerNumber = none
  entry : s'.timerEntryMap.lookup timerNumber
    = some ⟨timerNumber, type, windowLength, interval, flag, callback, uid⟩
  others : ∀ k, k ≠ timerNumber → s'.timerEntryMap.lookup k = s.timerEntryMap.lookup k

/-- What a call of `CreateTimer` does: it draws a number that is not zero. -/
theorem System.step_createTimer {s s' : System} {randoms : List ℕ} {type : ℤ}
    {windowLength interval : ℕ} {flag : ℤ} {callback : Callback} {uid : ℤ}
    (h : s.step (.createTimer randoms type windowLength interval flag callback uid) = some s') :
    ∃ timerNumber, timerNumber ≠ 0 ∧ createTimerResult randoms = some timerNumber ∧
      s' = s.createTimer timerNumber type windowLength interval flag callback uid := by
  unfold System.step at h
  simp only at h
  split at h
  · cases h
  · obtain ⟨timerNumber, hdrawn, hs'⟩ := Option.map_eq_some_iff.mp h
    have hnumber : timerNumber ≠ 0 := by simpa using List.find?_some hdrawn
    exact ⟨timerNumber, hnumber, hdrawn, hs'.symm⟩

/-- **Fresh timer numbers.** In every state, whatever numbers are drawn, `CreateTimer` gives its
    caller a timer of its own exactly when the number drawn is not in the table. -/
theorem create_fresh_iff {s s' : System} {randoms : List ℕ} {type : ℤ}
    {windowLength interval : ℕ} {flag : ℤ} {callback : Callback} {uid : ℤ}
    (hstep : s.step (.createTimer randoms type windowLength interval flag callback uid) = some s') :
    ∃ timerNumber, createTimerResult randoms = some timerNumber ∧
      (NewTimer s s' timerNumber type windowLength interval flag callback uid ↔
        timerNumber ∉ s.timerEntryMap) := by
  obtain ⟨timerNumber, hnumber, hdrawn, rfl⟩ := System.step_createTimer hstep
  refine ⟨timerNumber, hdrawn, fun hnew => AList.lookup_eq_none.mp hnew.unused, fun hunused => ?_⟩
  refine ⟨hnumber, AList.lookup_eq_none.mpr hunused, ?_, fun k hk => ?_⟩
  · rw [System.createTimer_lookup, if_pos ⟨rfl, hunused⟩]
  · rw [System.createTimer_lookup, if_neg fun hold => hk hold.1]

/-- Two callers draw the number 7: the second is handed the timer of the first. -/
theorem create_shared :
    ∃ s s' : System, Reachable Always s ∧
      s.step (.createTimer [7] 3 0 0 0 (some 1) 20) = some s' ∧
      createTimerResult [7] = some 7 ∧
      ¬ NewTimer s s' 7 3 0 0 0 (some 1) 20 ∧
      s'.timerEntryMap.lookup 7 = some ⟨7, 3, 0, 0, 0, some 0, 10⟩ := by
  obtain ⟨s, hs, hcheck⟩ := exists_reached [.createTimer [7] 3 0 0 0 (some 0) 10]
    (fun s => s.timerEntryMap.lookup 7 = some ⟨7, 3, 0, 0, 0, some 0, 10⟩ && s.entryCall.isNone)
    (by decide +kernel)
  simp only [Bool.and_eq_true, decide_eq_true_eq, Option.isNone_iff_eq_none] at hcheck
  have hused : 7 ∈ s.timerEntryMap := AList.lookup_isSome.mp (by rw [hcheck.1]; rfl)
  refine ⟨s, s.createTimer 7 3 0 0 0 (some 1) 20, hs, ?_, rfl, ?_, ?_⟩
  · unfold System.step
    simp [hcheck.2]
  · intro hnew
    exact AList.lookup_eq_none.mp hnew.unused hused
  · -- a number in use is handed out all the same, and its entry stays that of its first owner
    rw [System.createTimer_lookup, if_neg fun hunused => hunused.2 hused]
    exact hcheck.1

/-- The first call draws an unused number. -/
theorem create_fresh_first :
    ∃ s', (System.init 1).step (.createTimer [0, 7] 3 0 0 0 (some 0) 10) = some s' ∧
      ∃ timerNumber, createTimerResult [0, 7] = some timerNumber ∧
        (NewTimer (System.init 1) s' timerNumber 3 0 0 0 (some 0) 10 ↔
          timerNumber ∉ (System.init 1).timerEntryMap) :=
  ⟨_, rfl, create_fresh_iff rfl⟩

/-! ### `StartTimer` -/

/-- What `StartTimer` answers: whether the timer exists. -/
def System.startTimerResult (s : System) (timerNumber : ℕ) : Bool :=
  (s.timerEntryMap.lookup timerNumber).isSome

/-- The trigger time that a caller of `StartTimer` is promised: the converted one, and no less than
    the minimum futurity away. -/
def promisedTrigger (isSystemUid : ℤ → Bool) (nowElapsed : ℤ) (clock : Clock) (type : ℤ)
    (triggerTime : ℕ) (uid : ℤ) : ℤ :=
  max (convertToElapsed clock (milliseconds triggerTime) type)
    (nowElapsed + msToNs (if isSystemUid uid then zeroFuturity else minFuturity))

/-- `SetHandler` sets nothing exactly when the converted trigger time has passed. -/
theorem setHandler_eq_none_iff {isSystemUid : ℤ → Bool} {nowElapsed : ℤ} {clock : Clock} {id : ℕ}
    {type : ℤ} {triggerAtTime windowLength interval : ℕ} {flag : ℤ} {callback : Callback}
    {uid : ℤ} :
    setHandler isSystemUid nowElapsed clock id type triggerAtTime windowLength interval flag
        callback uid = none ↔
      convertToElapsed clock (milliseconds triggerAtTime) type < nowElapsed := by
  unfold setHandler
  simp only
  split
  · simp [*]
  · simp [*]

/-- What `SetHandler` sets, it sets for the promised time. -/
theorem setHandler_promised {isSystemUid : ℤ → Bool} {nowElapsed : ℤ} {clock : Clock} {id : ℕ}
    {type : ℤ} {triggerAtTime windowLength interval : ℕ} {flag : ℤ} {callback : Callback}
    {uid : ℤ} {alarm : TimerInfo} (h : setHandler isSystemUid nowElapsed clock id type
      triggerAtTime windowLength interval flag callback uid = some alarm) :
    alarm.whenElapsed
      = promisedTrigger isSystemUid nowElapsed clock type triggerAtTime uid := by
  rw [(setHandler_fields h).whenElapsed_eq, promisedTrigger, raisedTrigger, minTrigger]
  -- the source picks the larger of the two times
  cases isSystemUid uid with
  | true =>
    simp only [if_true]
    split <;> omega
  | false =>
    simp only [Bool.false_eq_true, if_false]
    split <;> omega

/-- A call of `StartTimer` from its lock of `entryMapMutex_` to its return, with its answer and the
    state it returns in.  While the call waits for `mutex_` the other threads go on. -/
inductive StartTimerCall (s : System) (timerNumber triggerTime : ℕ) (isSystemUid : ℤ → Bool)
    (clock : Clock) : Bool → System → Prop
  | returned (s' : System)
      (hstep : s.step (.startTimer timerNumber triggerTime isSystemUid clock) = some s')
      (hreturn : s'.entryCall = none) :
      StartTimerCall s timerNumber triggerTime isSystemUid clock (s.startTimerResult timerNumber) s'
  | locked (t u s' : System) (alarm : TimerInfo)
      (hstep : s.step (.startTimer timerNumber triggerTime isSystemUid clock) = some t)
      (hcall : t.entryCall = some (.setHandlerLocked alarm))
      (hwait : Reaches System.step (fun _ a => a ≠ .setHandlerLocked) t u)
      (hinsert : u.step .setHandlerLocked = some s') :
      StartTimerCall s timerNumber triggerTime isSystemUid clock (s.startTimerResult timerNumber) s'

/-- The alarm that a caller of `StartTimer` is promised is pending. -/
def System.HasAlarm (s : System) (timerNumber : ℕ) (whenElapsed : ℤ) : Prop :=
  ∃ alarm ∈ pending s.schedule.alarmBatches,
    alarm.id = timerNumber ∧ alarm.whenElapsed = whenElapsed

/-- `StartTimer` tells the truth: true means that the promised alarm is pending on return, false
    that nothing has changed. -/
def System.Truthful (s : System) (timerNumber triggerTime : ℕ) (isSystemUid : ℤ → Bool)
    (clock : Clock) (result : Bool) (s' : System) : Prop :=
  (result = true → ∃ entry, s.timerEntryMap.lookup timerNumber = some entry ∧
    s'.HasAlarm timerNumber
      (promisedTrigger isSystemUid s.bootTime clock entry.type triggerTime entry.uid)) ∧
  (result = false → s' = s)

/-- While a call waits for `mutex_` with an alarm, no other step takes the alarm from it. -/
theorem StepCase.waits {s s' : System} {a : Action} (h : StepCase s a s') {alarm : TimerInfo}
    (hcall : s.entryCall = some (.setHandlerLocked alarm)) (ha : a ≠ .setHandlerLocked) :
    s'.entryCall = some (.setHandlerLocked alarm) := by
  cases h with
  | insert => exact (ha rfl).elim
  -- the mutex of the table keeps other calls out
  | start _ _ _ _ _ _ hfree => simp [hcall] at hfree
  | stop _ _ _ hfree => simp [hcall] at hfree
  | remove _ _ _ _ hother => simp [hcall] at hother
  | removeProxy _ _ _ hother => simp [hcall] at hother
  | finish _ _ hother => simp [hcall] at hother
  | _ => exact hcall

/-- The insertion ends the call with its alarm pending. -/
theorem System.pending_setHandlerLocked {s s' : System} {alarm : TimerInfo}
    (hcall : s.entryCall = some (.setHandlerLocked alarm))
    (h : s.step .setHandlerLocked = some s') : alarm ∈ pending s'.schedule.alarmBatches := by
  obtain ⟨alarm', hcall', _, rfl⟩ := System.step_setHandlerLocked h
  rw [hcall] at hcall'
  cases hcall'
  show alarm ∈ pending (s.schedule.setHandlerLocked alarm false).alarmBatches
  rw [Schedule.setHandlerLocked_alarmBatches, mem_pending_insertAndBatch]
  exact .inl rfl

/-- `StartTimer` up to the lock of `mutex_`, when no other call is under way. -/
theorem System.step_startTimer {s : System} (hfree : s.entryCall = none)
    (timerNumber triggerTime : ℕ) (isSystemUid : ℤ → Bool) (clock : Clock) :
    s.step (.startTimer timerNumber triggerTime isSystemUid clock)
      = some (s.startTimer timerNumber triggerTime isSystemUid clock) := by
  show (if s.entryCall.isSome then none else _) = _
  rw [hfree]
  rfl

/-- No alarm is set when the converted trigger time of the timer has passed, and then alone. -/
theorem System.startedAlarm_eq_none_iff {s : System} {timerNumber : ℕ} {entry : TimerEntry}
    (hentry : s.timerEntryMap.lookup timerNumber = some entry) (triggerTime : ℕ)
    (isSystemUid : ℤ → Bool) (clock : Clock) :
    s.startedAlarm timerNumber triggerTime isSystemUid clock = none ↔
      convertToElapsed clock (milliseconds triggerTime) entry.type < s.bootTime := by
  rw [System.startedAlarm, hentry, Option.bind_some, setHandler_eq_none_iff]

/-- A call that sets no alarm changes nothing. -/
theorem System.startTimer_of_none {s : System} {timerNumber triggerTime : ℕ}
    {isSystemUid : ℤ → Bool} {clock : Clock}
    (h : s.startedAlarm timerNumber triggerTime isSystemUid clock = none) :
    s.startTimer timerNumber triggerTime isSystemUid clock = s := by
  rw [System.startTimer, h]

/-- A call that returns at once has set no alarm and changed nothing. -/
theorem startTimer_returned {s s' : System} {timerNumber triggerTime : ℕ}
    {isSystemUid : ℤ → Bool} {clock : Clock}
    (hstep : s.step (.startTimer timerNumber triggerTime isSystemUid clock) = some s')
    (hreturn : s'.entryCall = none) :
    s.startedAlarm timerNumber triggerTime isSystemUid clock = none ∧ s' = s := by
  obtain ⟨_, rfl⟩ := System.startTimer_of_step hstep
  rcases halarm : s.startedAlarm timerNumber triggerTime isSystemUid clock with _ | alarm
  · exact ⟨rfl, System.startTimer_of_none halarm⟩
  · rw [System.startTimer, halarm] at hreturn
    cases hreturn

/-- A call that waits for `mutex_` waits with the alarm computed at its start, and returns with that
    alarm pending. -/
theorem startTimer_locked {s t u s' : System} {timerNumber triggerTime : ℕ}
    {isSystemUid : ℤ → Bool} {clock : Clock} {alarm : TimerInfo} (hfree : s.entryCall = none)
    (hstep : s.step (.startTimer timerNumber triggerTime isSystemUid clock) = some t)
    (hcall : t.entryCall = some (.setHandlerLocked alarm))
    (hwait : Reaches System.step (fun _ a => a ≠ .setHandlerLocked) t u)
    (hinsert : u.step .setHandlerLocked = some s') :
    s.startedAlarm timerNumber triggerTime isSystemUid clock = some alarm ∧
      alarm ∈ pending s'.schedule.alarmBatches := by
  rw [System.step_startTimer hfree] at hstep
  cases hstep
  -- no other step takes the alarm from the call
  have hkept : u.entryCall = some (.setHandlerLocked alarm) :=
    @Reaches.invariant _ _ _ _ _ _ (fun t => t.entryCall = some (.setHandlerLocked alarm)) hwait
      (fun _ _ _ ht ha hs => (System.stepCase hs).waits ht ha) hcall
  refine ⟨?_, System.pending_setHandlerLocked hkept hinsert⟩
  rcases halarm : s.startedAlarm timerNumber triggerTime isSystemUid clock with _ | alarm'
  · rw [System.startTimer_of_none halarm, hfree] at hcall
    cases hcall
  · rw [System.startTimer, halarm] at hcall
    cases hcall
    rfl

/-- **The answer of `StartTimer`.** In every reachable state, for every timer, trigger time, uid and
    clock, and whatever runs while the call waits for `mutex_`: the answer is truthful exactly when
    the converted trigger time has not passed at the call, or the very alarm was pending. -/
theorem start_truthful_iff {s : System} (h : Reachable Always s) (hfree : s.entryCall = none)
    (timerNumber triggerTime : ℕ) (isSystemUid : ℤ → Bool) (clock : Clock) :
    (∀ result s', StartTimerCall s timerNumber triggerTime isSystemUid clock result s' →
        s.Truthful timerNumber triggerTime isSystemUid clock result s') ↔
      ∀ entry, s.timerEntryMap.lookup timerNumber = some entry →
        s.bootTime ≤ convertToElapsed clock (milliseconds triggerTime) entry.type ∨
        s.HasAlarm timerNumber
          (promisedTrigger isSystemUid s.bootTime clock entry.type triggerTime entry.uid) := by
  have hstart := System.step_startTimer hfree timerNumber triggerTime isSystemUid clock
  constructor
  · -- with a passed trigger time the call returns true at once
    intro htruth entry hentry
    by_cases hpast : s.bootTime ≤ convertToElapsed clock (milliseconds triggerTime) entry.type
    · exact .inl hpast
    · right
      have hnone := (System.startedAlarm_eq_none_iff hentry triggerTime isSystemUid clock).mpr
        (not_le.mp hpast)
      rw [System.startTimer_of_none hnone] at hstart
      obtain ⟨entry', hentry', halarm⟩ :=
        (htruth _ _ (.returned s hstart hfree)).1 (by rw [System.startTimerResult, hentry]; rfl)
      rw [hentry] at hentry'
      cases hentry'
      exact halarm
  · intro hcond result s' hcall
    cases hcall with
    | returned _ hstep hreturn =>
      obtain ⟨halarm, rfl⟩ := startTimer_returned hstep hreturn
      refine ⟨fun hresult => ?_, fun _ => rfl⟩
      obtain ⟨entry, hentry⟩ := Option.isSome_iff_exists.mp hresult
      rw [System.startedAlarm_eq_none_iff hentry] at halarm
      rcases hcond entry hentry with hlater | hpending
      · omega
      · exact ⟨entry, hentry, hpending⟩
    | locked t u _ alarm hstep hwaiting hwait hinsert =>
      obtain ⟨halarm, hmem⟩ := startTimer_locked hfree hstep hwaiting hwait hinsert
      obtain ⟨entry, hentry, hset⟩ := Option.bind_eq_some_iff.mp halarm
      have hid : alarm.id = timerNumber := by
        rw [(setHandler_eq_some hset).1]
        exact h.agrees.keys timerNumber entry hentry
      refine ⟨fun _ => ⟨entry, hentry, alarm, hmem, hid, setHandler_promised hset⟩,
        fun hno => ?_⟩
      rw [System.startTimerResult, hentry] at hno
      cases hno

/-- Ten seconds after the boot a timer is started for the second second: the answer is true, and no
    alarm is pending. -/
theorem start_past :
    ∃ s : System, Reachable Always s ∧ s.entryCall = none ∧
      s.timerEntryMap.lookup 1 = some ⟨1, 3, 0, 0, 0, some 0, 10⟩ ∧
      StartTimerCall s 1 2000 (fun _ => false) ⟨10000000000, 0⟩ true s ∧
      pending s.schedule.alarmBatches = [] ∧
      ¬ s.Truthful 1 2000 (fun _ => false) ⟨10000000000, 0⟩ true s := by
  obtain ⟨s, hs, hcheck⟩ := exists_reached
    [.createTimer [1] 3 0 0 0 (some 0) 10, .advance 10000000000]
    (fun s => s.timerEntryMap.lookup 1 = some ⟨1, 3, 0, 0, 0, some 0, 10⟩ && s.entryCall.isNone &&
      decide (s.bootTime = 10000000000) && decide (pending s.schedule.alarmBatches = []))
    (by decide +kernel)
  simp only [Bool.and_eq_true, decide_eq_true_eq, Option.isNone_iff_eq_none] at hcheck
  obtain ⟨⟨⟨hentry, hfree⟩, hboot⟩, hpending⟩ := hcheck
  have hnone : s.startedAlarm 1 2000 (fun _ => false) ⟨10000000000, 0⟩ = none := by
    rw [System.startedAlarm, hentry, Option.bind_some, setHandler_eq_none_iff, hboot]
    decide
  have hcall : StartTimerCall s 1 2000 (fun _ => false) ⟨10000000000, 0⟩ true s := by
    have hresult : s.startTimerResult 1 = true := by
      rw [System.startTimerResult, hentry]
      rfl
    rw [← hresult]
    refine .returned s ?_ hfree
    rw [System.step_startTimer hfree, System.startTimer, hnone]
  refine ⟨s, hs, hfree, hentry, hcall, hpending, fun htruth => ?_⟩
  obtain ⟨_, _, alarm, halarm, _⟩ := htruth.1 rfl
  rw [hpending] at halarm
  cases halarm

/-- A trigger time that has not passed: the answer is truthful, and the alarm is raised to five
    seconds from now. -/
theorem start_truthful_raised :
    ∃ s : System, s.timerEntryMap.lookup 1 = some ⟨1, 3, 0, 0, 0, some 0, 10⟩ ∧
      s.bootTime = 10000000000 ∧
      ∀ result s', StartTimerCall s 1 12000 (fun _ => false) ⟨10000000000, 0⟩ result s' →
        s.Truthful 1 12000 (fun _ => false) ⟨10000000000, 0⟩ result s' := by
  obtain ⟨s, hs, hcheck⟩ := exists_reached
    [.createTimer [1] 3 0 0 0 (some 0) 10, .advance 10000000000]
    (fun s => s.timerEntryMap.lookup 1 = some ⟨1, 3, 0, 0, 0, some 0, 10⟩ && s.entryCall.isNone &&
      decide (s.bootTime = 10000000000))
    (by decide +kernel)
  simp only [Bool.and_eq_true, decide_eq_true_eq, Option.isNone_iff_eq_none] at hcheck
  obtain ⟨⟨hentry, hfree⟩, hboot⟩ := hcheck
  refine ⟨s, hentry, hboot, ?_⟩
  rw [start_truthful_iff hs hfree 1 12000 (fun _ => false) ⟨10000000000, 0⟩]
  intro entry hentry'
  rw [hentry] at hentry'
  cases hentry'
  left
  rw [hboot]
  decide

end TimeService
