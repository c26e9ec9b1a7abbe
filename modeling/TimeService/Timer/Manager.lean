import TimeService.Timer.SetHandler
import TimeService.Timer.Trigger
import TimeService.Timer.ProxyLedger
import TimeService.Lib.Transition

namespace TimeService

open Transition

/-!
# The timer manager as a transition system

`TimerManager` with its callers and its looper thread.  One action is one region of the source
under a mutex, so any interleaving of calls, looper iterations and proxy switches is a run:

* the callers hold `entryMapMutex_` over `mutex_` or `proxyMutex_`, so a call that has nested
  regions left to do is kept in `entryCall` and no other call of the timer table starts;
* the looper takes `mutex_` alone, once for a clock change and once for the pass, so it runs
  between the nested regions of a call.  It holds `mutex_` from the pass to the reschedule, and in
  between takes `proxyMutex_` for one delivery after the other: the other operations on the proxy
  table run between the deliveries, the regions under `mutex_` do not.

The clock readings of a region are part of its action, boot time is part of the state.  The last
fields of `System` are history: no operation reads them.

`StepCase` says once what each step can do, and `Reachable` are the states of guarded runs from
a new manager.
-/

/-- What the holder of `entryMapMutex_` still has to do. -/
inductive EntryCall
  | setHandlerLocked (alarm : TimerInfo)
  | removeHandler (timerNumber : ℕ) (uid : ℤ) (needDestroy : Bool)
  | removeProxy (timerNumber : ℕ) (uid : ℤ) (needDestroy : Bool)
  | finishStop (timerNumber : ℕ) (needDestroy : Bool)
deriving DecidableEq, Repr

/-- Where the looper is in its iteration: it waits for alarms, has woken with its result and clock
    readings, is past the clock-change region, or holds `mutex_` with this much of the trigger list
    of its pass still to deliver. -/
inductive LooperState
  | waiting
  | woken (result : BitVec 32) (nowRtc nowElapsed : ℤ)
  | checked (result : BitVec 32) (nowElapsed : ℤ)
  | delivering (triggerList : List TimerInfo)
deriving DecidableEq, Repr

/-- The looper holds `mutex_` between two steps. -/
def LooperState.holdsMutex : LooperState → Bool
  | .delivering _ => true
  | _ => false

/-- What the looper has still to deliver. -/
def LooperState.toDeliver : LooperState → List TimerInfo
  | .delivering triggerList => triggerList
  | _ => []

/-- When `mutex_` is free nothing is left to deliver. -/
theorem LooperState.toDeliver_of_free {looper : LooperState} (h : looper.holdsMutex = false) :
    looper.toDeliver = [] := by
  cases looper with
  | delivering triggerList => cases h
  | _ => rfl

/-- The state of `TimerManager` and of the boot clock.  `proxy` is the proxy table with the
    callbacks invoked so far, `triggered` all the alarms that passes have put in their trigger
    lists, `removed` the alarms that stops have taken out of the batches. -/
structure System where
  timerEntryMap : AList fun _ : ℕ => TimerEntry
  schedule : Schedule
  lastTimeChangeClockTime : Option ℤ
  lastTimeChangeRealtime : ℤ
  entryCall : Option EntryCall
  looper : LooperState
  bootTime : ℤ
  proxy : ProxyRun
  triggered : List TimerInfo
  removed : List TimerInfo

/-- A new `TimerManager`.  `none` stands for `system_clock::time_point::min()`. -/
def System.init (bootTime : ℤ) : System where
  timerEntryMap := ∅
  schedule := ⟨[], .create, []⟩
  lastTimeChangeClockTime := none
  lastTimeChangeRealtime := timePointMin
  entryCall := none
  looper := .waiting
  bootTime := bootTime
  proxy := ⟨.empty, []⟩
  triggered := []
  removed := []

/-- The regions of the manager, with what varies in them: arguments, clock readings, numbers
    drawn, and the order in which `std::sort` leaves a trigger list. -/
inductive Action
  | createTimer (randoms : List ℕ) (type : ℤ) (windowLength interval : ℕ) (flag : ℤ)
      (callback : Callback) (uid : ℤ)
  | startTimer (timerNumber triggerTime : ℕ) (isSystemUid : ℤ → Bool) (clock : Clock)
  | setHandlerLocked
  | stopTimer (timerNumber : ℕ)
  | destroyTimer (timerNumber : ℕ)
  | removeHandler (clocks : ℕ → Clock)
  | removeProxy
  | finishStop
  | wake (events : Option (List (Fin (alarmTypeCount + 1) × ReadAnswer))) (nowRtc : ℤ)
  | timeChange (clocks : ℕ → Clock)
  | pass (triggerList : List TimerInfo)
  | deliver
  | reschedule
  | proxyTimer (uid : ℤ) (isProxy needRetrigger : Bool)
  | resetAllProxy
  | advance (bootTime : ℤ)

/-! ### Calls on the timer table -/

/-- `TimerManager::CreateTimer` with the number it has drawn; `insert` keeps an entry that is
    there already. -/
def System.createTimer (s : System) (timerNumber : ℕ) (type : ℤ) (windowLength interval : ℕ)
    (flag : ℤ) (callback : Callback) (uid : ℤ) : System :=
  let timerInfo : TimerEntry := ⟨timerNumber, type, windowLength, interval, flag, callback, uid⟩
  { s with
    timerEntryMap :=
      if timerNumber ∈ s.timerEntryMap then s.timerEntryMap
      else s.timerEntryMap.insert timerNumber timerInfo }

/-- The alarm `TimerManager::StartTimer` computes before it takes `mutex_`; `none` when it returns
    because the id is unknown or the trigger time has passed. -/
def System.startedAlarm (s : System) (timerNumber triggerTime : ℕ) (isSystemUid : ℤ → Bool)
    (clock : Clock) : Option TimerInfo :=
  (s.timerEntryMap.lookup timerNumber).bind fun timerInfo =>
    setHandler isSystemUid s.bootTime clock timerInfo.id timerInfo.type triggerTime
      timerInfo.windowLength timerInfo.interval timerInfo.flag timerInfo.callback timerInfo.uid

/-- `TimerManager::StartTimer` up to the lock of `mutex_`. -/
def System.startTimer (s : System) (timerNumber triggerTime : ℕ) (isSystemUid : ℤ → Bool)
    (clock : Clock) : System :=
  match s.startedAlarm timerNumber triggerTime isSystemUid clock with
  | none => s
  | some alarm => { s with entryCall := some (.setHandlerLocked alarm) }

/-- `TimerManager::SetHandlerLocked`, the region of `StartTimer` under `mutex_`. -/
def System.setHandlerLocked (s : System) (alarm : TimerInfo) : System :=
  { s with schedule := s.schedule.setHandlerLocked alarm false, entryCall := none }

/-- `TimerManager::StopTimerInner` up to the call of `RemoveHandler`. -/
def System.stopTimerInner (s : System) (timerNumber : ℕ) (needDestroy : Bool) : System :=
  match s.timerEntryMap.lookup timerNumber with
  | none => s
  | some entry => { s with entryCall := some (.removeHandler timerNumber entry.uid needDestroy) }

/-- `TimerManager::RemoveHandler`. -/
def System.removeHandler (s : System) (timerNumber : ℕ) (uid : ℤ) (needDestroy : Bool)
    (clocks : ℕ → Clock) : System :=
  { s with
    schedule := s.schedule.removeLocked timerNumber s.bootTime clocks
    entryCall := some (.removeProxy timerNumber uid needDestroy)
    removed := s.removed ++
      (pending s.schedule.alarmBatches).filter fun alarm => alarm.id = timerNumber }

/-- `TimerManager::RemoveProxy`. -/
def System.removeProxy (s : System) (timerNumber : ℕ) (uid : ℤ) (needDestroy : Bool) : System :=
  { s with
    proxy := s.proxy.step (.removeProxy timerNumber uid)
    entryCall := some (.finishStop timerNumber needDestroy) }

/-- The rest of `TimerManager::StopTimerInner`, which then returns true. -/
def System.finishStop (s : System) (timerNumber : ℕ) (needDestroy : Bool) : System :=
  { s with
    timerEntryMap := if needDestroy then s.timerEntryMap.erase timerNumber else s.timerEntryMap
    entryCall := none }

/-! ### The looper -/

/-- `TimerManager::TimerLooper` up to the readings of the clocks.  The result is unsigned, so the
    loop around `WaitForAlarm` never repeats. -/
def System.wake (s : System) (events : Option (List (Fin (alarmTypeCount + 1) × ReadAnswer)))
    (nowRtc : ℤ) : System :=
  let waited := s.schedule.handler.waitForAlarm events
  { s with
    schedule := { s.schedule with handler := waited.2 }
    looper := .woken waited.1 nowRtc s.bootTime }

/-- The test of `TimerManager::TimerLooper` on a clock change: the wall clock is more than a second
    off from what the boot clock makes of the last change. -/
def System.clockChanged (s : System) (nowRtc nowElapsed : ℤ) : Bool :=
  match s.lastTimeChangeClockTime with
  | none => true
  | some lastTimeChangeClockTime =>
    let expectedClockTime := lastTimeChangeClockTime
      + msToNs (durationCastMs nowElapsed - durationCastMs s.lastTimeChangeRealtime)
    nowRtc < expectedClockTime - msToNs 1000 ∨ nowRtc > expectedClockTime + msToNs 1000

/-- The clock-change region of `TimerManager::TimerLooper`. -/
def System.timeChange (s : System) (result : BitVec 32) (nowRtc nowElapsed : ℤ)
    (clocks : ℕ → Clock) : System :=
  if result &&& timeChangedMask ≠ 0#32 ∧ s.clockChanged nowRtc nowElapsed then
    { s with
      schedule := s.schedule.reBatchAllTimersLocked s.bootTime clocks
      lastTimeChangeClockTime := some nowRtc
      lastTimeChangeRealtime := nowElapsed
      looper := .checked result nowElapsed }
  else { s with looper := .checked result nowElapsed }

/-- The last region of an iteration of `TimerManager::TimerLooper` begins with
    `TriggerTimersLocked` when the result is not only a clock change. -/
def System.trigger (s : System) (nowElapsed : ℤ) (triggerList : List TimerInfo) : System :=
  { s with
    schedule := (s.schedule.triggerTimersLocked nowElapsed).schedule
    looper := .delivering triggerList
    triggered := s.triggered ++ triggerList }

/-- One round of the loop of `TimerManager::DeliverTimersLocked`. -/
def System.deliver (s : System) (alarm : TimerInfo) (rest : List TimerInfo) : System :=
  { s with proxy := s.proxy.step (.deliver alarm), looper := .delivering rest }

/-- The last region of an iteration ends with `RescheduleKernelTimerLocked`. -/
def System.reschedule (s : System) : System :=
  { s with schedule := s.schedule.rescheduleKernelTimerLocked, looper := .waiting }

/-- What `std::sort` may make of the trigger list of a pass. -/
def System.TriggerList (s : System) (nowElapsed : ℤ) (triggerList : List TimerInfo) : Prop :=
  triggerList.Perm (s.schedule.triggerTimersLocked nowElapsed).triggerList ∧
    triggerList.Pairwise fun x y => x.whenElapsed ≤ y.whenElapsed

instance (s : System) (nowElapsed : ℤ) (triggerList : List TimerInfo) :
    Decidable (s.TriggerList nowElapsed triggerList) :=
  inferInstanceAs (Decidable (_ ∧ _))

/-! ### Steps -/

/-- One step; `none` when the action is not enabled. -/
def System.step (s : System) : Action → Option System
  | .createTimer randoms type windowLength interval flag callback uid =>
    if s.entryCall.isSome then none
    else
      -- numbers are drawn until one is not zero
      (randoms.find? fun timerNumber => timerNumber ≠ 0).map fun timerNumber =>
        s.createTimer timerNumber type windowLength interval flag callback uid
  | .startTimer timerNumber triggerTime isSystemUid clock =>
    if s.entryCall.isSome then none
    else some (s.startTimer timerNumber triggerTime isSystemUid clock)
  | .setHandlerLocked =>
    match s.entryCall with
    | some (.setHandlerLocked alarm) =>
      if s.looper.holdsMutex then none else some (s.setHandlerLocked alarm)
    | _ => none
  | .stopTimer timerNumber =>
    if s.entryCall.isSome then none else some (s.stopTimerInner timerNumber false)
  | .destroyTimer timerNumber =>
    if s.entryCall.isSome then none else some (s.stopTimerInner timerNumber true)
  | .removeHandler clocks =>
    match s.entryCall with
    | some (.removeHandler timerNumber uid needDestroy) =>
      if s.looper.holdsMutex then none
      else some (s.removeHandler timerNumber uid needDestroy clocks)
    | _ => none
  | .removeProxy =>
    match s.entryCall with
    | some (.removeProxy timerNumber uid needDestroy) =>
      some (s.removeProxy timerNumber uid needDestroy)
    | _ => none
  | .finishStop =>
    match s.entryCall with
    | some (.finishStop timerNumber needDestroy) => some (s.finishStop timerNumber needDestroy)
    | _ => none
  | .wake events nowRtc =>
    match s.looper with
    | .waiting => some (s.wake events nowRtc)
    | _ => none
  | .timeChange clocks =>
    match s.looper with
    | .woken result nowRtc nowElapsed => some (s.timeChange result nowRtc nowElapsed clocks)
    | _ => none
  | .pass triggerList =>
    match s.looper with
    | .checked result nowElapsed =>
      if result ≠ timeChangedMask then
        if s.TriggerList nowElapsed triggerList then some (s.trigger nowElapsed triggerList)
        else none
      else if triggerList.isEmpty then some { s with looper := .delivering [] }
      else none
    | _ => none
  | .deliver =>
    match s.looper with
    | .delivering (alarm :: rest) => some (s.deliver alarm rest)
    | _ => none
  | .reschedule =>
    match s.looper with
    | .delivering [] => some s.reschedule
    | _ => none
  | .proxyTimer uid isProxy needRetrigger =>
    some { s with proxy := s.proxy.step (.proxyTimer uid isProxy needRetrigger) }
  | .resetAllProxy => some { s with proxy := s.proxy.step .resetAllProxy }
  | .advance bootTime =>
    if s.bootTime ≤ bootTime then
      some { s with
        bootTime := bootTime
        schedule := { s.schedule with handler := s.schedule.handler.expire bootTime } }
    else none

/-- A call that may return without a region under `mutex_`. -/
def Action.MayReturn : Action → Prop
  | .startTimer .. => True
  | .stopTimer _ => True
  | .destroyTimer _ => True
  | _ => False

/-- `StopTimer` or `DestroyTimer`. -/
def Action.stop (timerNumber : ℕ) (needDestroy : Bool) : Action :=
  if needDestroy then .destroyTimer timerNumber else .stopTimer timerNumber

/-- **Steps, by cases.** Each constructor is what one kind of step needs and does. -/
inductive StepCase (s : System) : Action → System → Prop
  | idle (a : Action) (hreturn : a.MayReturn) : StepCase s a s
  | create (randoms type windowLength interval flag callback uid) (timerNumber : ℕ)
      (hfree : s.entryCall = none) (hnumber : timerNumber ≠ 0)
      (hdrawn : randoms.find? (fun timerNumber => timerNumber ≠ 0) = some timerNumber) :
      StepCase s (.createTimer randoms type windowLength interval flag callback uid)
        (s.createTimer timerNumber type windowLength interval flag callback uid)
  | start (timerNumber triggerTime isSystemUid clock) (entry : TimerEntry) (alarm : TimerInfo)
      (hfree : s.entryCall = none) (hentry : s.timerEntryMap.lookup timerNumber = some entry)
      (halarm : setHandler isSystemUid s.bootTime clock entry.id entry.type triggerTime
        entry.windowLength entry.interval entry.flag entry.callback entry.uid = some alarm) :
      StepCase s (.startTimer timerNumber triggerTime isSystemUid clock)
        { s with entryCall := some (.setHandlerLocked alarm) }
  | insert (alarm) (hcall : s.entryCall = some (.setHandlerLocked alarm))
      (hmutex : s.looper.holdsMutex = false) :
      StepCase s .setHandlerLocked (s.setHandlerLocked alarm)
  | stop (timerNumber) (entry : TimerEntry) (needDestroy : Bool) (hfree : s.entryCall = none)
      (hentry : s.timerEntryMap.lookup timerNumber = some entry) :
      StepCase s (.stop timerNumber needDestroy)
        { s with entryCall := some (.removeHandler timerNumber entry.uid needDestroy) }
  | remove (timerNumber uid needDestroy clocks)
      (hcall : s.entryCall = some (.removeHandler timerNumber uid needDestroy))
      (hmutex : s.looper.holdsMutex = false) :
      StepCase s (.removeHandler clocks) (s.removeHandler timerNumber uid needDestroy clocks)
  | removeProxy (timerNumber uid needDestroy)
      (hcall : s.entryCall = some (.removeProxy timerNumber uid needDestroy)) :
      StepCase s .removeProxy (s.removeProxy timerNumber uid needDestroy)
  | finish (timerNumber needDestroy)
      (hcall : s.entryCall = some (.finishStop timerNumber needDestroy)) :
      StepCase s .finishStop (s.finishStop timerNumber needDestroy)
  | wake (events nowRtc) (hlooper : s.looper = .waiting) :
      StepCase s (.wake events nowRtc) (s.wake events nowRtc)
  | clockKept (result nowRtc nowElapsed clocks)
      (hlooper : s.looper = .woken result nowRtc nowElapsed)
      (hkept : ¬ (result &&& timeChangedMask ≠ 0#32 ∧ s.clockChanged nowRtc nowElapsed = true)) :
      StepCase s (.timeChange clocks) { s with looper := .checked result nowElapsed }
  | rebatch (result nowRtc nowElapsed clocks)
      (hlooper : s.looper = .woken result nowRtc nowElapsed)
      (hchanged : result &&& timeChangedMask ≠ 0#32 ∧ s.clockChanged nowRtc nowElapsed = true) :
      StepCase s (.timeChange clocks)
        { s with
          schedule := s.schedule.reBatchAllTimersLocked s.bootTime clocks
          lastTimeChangeClockTime := some nowRtc
          lastTimeChangeRealtime := nowElapsed
          looper := .checked result nowElapsed }
  | trigger (result nowElapsed triggerList) (hlooper : s.looper = .checked result nowElapsed)
      (hlist : s.TriggerList nowElapsed triggerList) :
      StepCase s (.pass triggerList) (s.trigger nowElapsed triggerList)
  | noTrigger (result nowElapsed) (hlooper : s.looper = .checked result nowElapsed) :
      StepCase s (.pass []) { s with looper := .delivering [] }
  | deliver (alarm rest) (hlooper : s.looper = .delivering (alarm :: rest)) :
      StepCase s .deliver (s.deliver alarm rest)
  | reschedule (hlooper : s.looper = .delivering []) : StepCase s .reschedule s.reschedule
  | proxyTimer (uid isProxy needRetrigger) :
      StepCase s (.proxyTimer uid isProxy needRetrigger)
        { s with proxy := s.proxy.step (.proxyTimer uid isProxy needRetrigger) }
  | resetAllProxy : StepCase s .resetAllProxy { s with proxy := s.proxy.step .resetAllProxy }
  | advance (bootTime) (hle : s.bootTime ≤ bootTime) :
      StepCase s (.advance bootTime) { s with
        bootTime := bootTime
        schedule := { s.schedule with handler := s.schedule.handler.expire bootTime } }

/-- A call starts when no other is under way. -/
private theorem System.free_of_step {s s' : System} {next : Option System}
    (h : (if s.entryCall.isSome then none else next) = some s') :
    s.entryCall = none ∧ next = some s' := by
  split at h
  · cases h
  · rename_i hfree
    exact ⟨by simpa using hfree, h⟩

theorem System.startTimer_of_step {s s' : System} {timerNumber triggerTime : ℕ}
    {isSystemUid : ℤ → Bool} {clock : Clock}
    (h : s.step (.startTimer timerNumber triggerTime isSystemUid clock) = some s') :
    s.entryCall = none ∧ s' = s.startTimer timerNumber triggerTime isSystemUid clock := by
  obtain ⟨hfree, hstart⟩ := System.free_of_step h
  exact ⟨hfree, (Option.some.inj hstart).symm⟩

/-- A region that ends a call runs when that region of a call is due. -/
theorem System.step_setHandlerLocked {s s' : System} (h : s.step .setHandlerLocked = some s') :
    ∃ alarm, s.entryCall = some (.setHandlerLocked alarm) ∧ s.looper.holdsMutex = false ∧
      s' = s.setHandlerLocked alarm := by
  unfold System.step at h
  simp only at h
  split at h
  · obtain ⟨hmutex, hs'⟩ := Option.ite_none_left_eq_some.mp h
    cases hs'
    exact ⟨_, ‹_›, by simpa using hmutex, rfl⟩
  · cases h

theorem System.step_removeHandler {s s' : System} {clocks : ℕ → Clock}
    (h : s.step (.removeHandler clocks) = some s') :
    ∃ timerNumber uid needDestroy,
      s.entryCall = some (.removeHandler timerNumber uid needDestroy) ∧
      s.looper.holdsMutex = false ∧ s' = s.removeHandler timerNumber uid needDestroy clocks := by
  unfold System.step at h
  simp only at h
  split at h
  · obtain ⟨hmutex, hs'⟩ := Option.ite_none_left_eq_some.mp h
    cases hs'
    exact ⟨_, _, _, ‹_›, by simpa using hmutex, rfl⟩
  · cases h

theorem System.step_finishStop {s s' : System} {timerNumber : ℕ} {needDestroy : Bool}
    (hcall : s.entryCall = some (.finishStop timerNumber needDestroy))
    (h : s.step .finishStop = some s') : s' = s.finishStop timerNumber needDestroy := by
  unfold System.step at h
  simp only [hcall] at h
  exact (Option.some.inj h).symm

/-- A region of the looper runs when the looper is in front of it. -/
theorem System.step_wake {s s' : System}
    {events : Option (List (Fin (alarmTypeCount + 1) × ReadAnswer))} {nowRtc : ℤ}
    (h : s.step (.wake events nowRtc) = some s') :
    s.looper = .waiting ∧ s' = s.wake events nowRtc := by
  unfold System.step at h
  simp only at h
  split at h
  · exact ⟨‹_›, (Option.some.inj h).symm⟩
  · cases h

theorem System.step_timeChange {s s' : System} {clocks : ℕ → Clock}
    (h : s.step (.timeChange clocks) = some s') :
    ∃ result nowRtc nowElapsed, s.looper = .woken result nowRtc nowElapsed ∧
      s' = s.timeChange result nowRtc nowElapsed clocks := by
  unfold System.step at h
  simp only at h
  split at h
  · cases h
    exact ⟨_, _, _, ‹_›, rfl⟩
  · cases h

theorem System.looper_of_pass {s s' : System} {triggerList : List TimerInfo}
    (h : s.step (.pass triggerList) = some s') :
    ∃ result nowElapsed, s.looper = .checked result nowElapsed := by
  unfold System.step at h
  simp only at h
  split at h
  · exact ⟨_, _, ‹_›⟩
  · cases h

/-- What a pass is: it triggers, unless the looper has woken for a clock change alone. -/
theorem System.step_pass {s s' : System} {result : BitVec 32} {nowElapsed : ℤ}
    {triggerList : List TimerInfo} (hlooper : s.looper = .checked result nowElapsed)
    (h : s.step (.pass triggerList) = some s') :
    (result ≠ timeChangedMask ∧ s.TriggerList nowElapsed triggerList ∧
      s' = s.trigger nowElapsed triggerList) ∨
    (result = timeChangedMask ∧ triggerList = [] ∧
      s' = { s with looper := .delivering [] }) := by
  unfold System.step at h
  simp only [hlooper] at h
  split at h
  · split at h
    · rename_i hresult hlist
      cases h
      exact .inl ⟨hresult, hlist, rfl⟩
    · cases h
  · split at h
    · rename_i hresult hempty
      cases h
      exact .inr ⟨not_not.mp hresult, List.isEmpty_iff.mp hempty, rfl⟩
    · cases h

private theorem stepCase_stopTimerInner {s : System} (hfree : s.entryCall = none)
    (timerNumber : ℕ) (needDestroy : Bool) :
    StepCase s (.stop timerNumber needDestroy) (s.stopTimerInner timerNumber needDestroy) := by
  unfold System.stopTimerInner
  cases hentry : s.timerEntryMap.lookup timerNumber with
  -- an unknown id returns at once
  | none => exact .idle _ (by cases needDestroy <;> trivial)
  | some entry => exact .stop timerNumber entry needDestroy hfree hentry

/-- `StartTimer` returns at once, or waits for `mutex_` with its alarm. -/
private theorem stepCase_startTimer {s : System} (hfree : s.entryCall = none)
    (timerNumber triggerTime : ℕ) (isSystemUid : ℤ → Bool) (clock : Clock) :
    StepCase s (.startTimer timerNumber triggerTime isSystemUid clock)
      (s.startTimer timerNumber triggerTime isSystemUid clock) := by
  unfold System.startTimer
  split
  · exact .idle _ trivial
  · rename_i alarm halarm
    obtain ⟨entry, hentry, hset⟩ := Option.bind_eq_some_iff.mp halarm
    exact .start _ _ _ _ entry alarm hfree hentry hset

/-- Both answers of the test on a clock change keep the looper going. -/
private theorem stepCase_timeChange {s : System} {result : BitVec 32} {nowRtc nowElapsed : ℤ}
    (hlooper : s.looper = .woken result nowRtc nowElapsed) (clocks : ℕ → Clock) :
    StepCase s (.timeChange clocks) (s.timeChange result nowRtc nowElapsed clocks) := by
  unfold System.timeChange
  split
  · exact .rebatch _ _ _ _ hlooper ‹_›
  · exact .clockKept _ _ _ _ hlooper ‹_›

/-- Every step is one of these cases. -/
theorem System.stepCase {s s' : System} {a : Action} (h : s.step a = some s') :
    StepCase s a s' := by
  cases a with
  | createTimer randoms type windowLength interval flag callback uid =>
    obtain ⟨hfree, hdrawn⟩ := System.free_of_step h
    obtain ⟨timerNumber, hfind, rfl⟩ := Option.map_eq_some_iff.mp hdrawn
    have hnumber : timerNumber ≠ 0 := by simpa using List.find?_some hfind
    exact .create _ _ _ _ _ _ _ timerNumber hfree hnumber hfind
  | startTimer timerNumber triggerTime isSystemUid clock =>
    obtain ⟨hfree, rfl⟩ := System.startTimer_of_step h
    exact stepCase_startTimer hfree timerNumber triggerTime isSystemUid clock
  | setHandlerLocked =>
    obtain ⟨alarm, hcall, hmutex, rfl⟩ := System.step_setHandlerLocked h
    exact .insert alarm hcall hmutex
  | stopTimer timerNumber =>
    obtain ⟨hfree, hstop⟩ := System.free_of_step h
    cases hstop
    exact stepCase_stopTimerInner hfree timerNumber false
  | destroyTimer timerNumber =>
    obtain ⟨hfree, hstop⟩ := System.free_of_step h
    cases hstop
    exact stepCase_stopTimerInner hfree timerNumber true
  | removeHandler clocks =>
    obtain ⟨timerNumber, uid, needDestroy, hcall, hmutex, rfl⟩ := System.step_removeHandler h
    exact .remove timerNumber uid needDestroy clocks hcall hmutex
  | removeProxy =>
    unfold System.step at h
    simp only at h
    split at h
    · cases h
      exact .removeProxy _ _ _ ‹_›
    · cases h
  | finishStop =>
    unfold System.step at h
    simp only at h
    split at h
    · cases h
      exact .finish _ _ ‹_›
    · cases h
  | wake events nowRtc =>
    obtain ⟨hlooper, rfl⟩ := System.step_wake h
    exact .wake events nowRtc hlooper
  | timeChange clocks =>
    obtain ⟨result, nowRtc, nowElapsed, hlooper, rfl⟩ := System.step_timeChange h
    exact stepCase_timeChange hlooper clocks
  | pass triggerList =>
    obtain ⟨result, nowElapsed, hlooper⟩ := System.looper_of_pass h
    rcases System.step_pass hlooper h with ⟨_, hlist, rfl⟩ | ⟨_, rfl, rfl⟩
    · exact .trigger result nowElapsed triggerList hlooper hlist
    · exact .noTrigger result nowElapsed hlooper
  | deliver =>
    unfold System.step at h
    simp only at h
    split at h
    · cases h
      exact .deliver _ _ ‹_›
    · cases h
  | reschedule =>
    unfold System.step at h
    simp only at h
    split at h
    · cases h
      exact .reschedule ‹_›
    · cases h
  | proxyTimer uid isProxy needRetrigger =>
    cases h
    exact .proxyTimer _ _ _
  | resetAllProxy =>
    cases h
    exact .resetAllProxy
  | advance bootTime =>
    unfold System.step at h
    simp only at h
    split at h
    · cases h
      exact .advance _ ‹_›
    · cases h

/-! ### Reachable states -/

/-- Every action is allowed. -/
def Always (_ : System) (_ : Action) : Prop := True

/-- The states of the runs from a new manager whose steps all meet `ok`.  The boot clock has left
    zero when the manager is created. -/
def Reachable (ok : System → Action → Prop) (s : System) : Prop :=
  ∃ bootTime, 0 < bootTime ∧ Reaches System.step ok (System.init bootTime) s

/-- A state of guarded runs is a reachable state. -/
theorem Reachable.always {ok : System → Action → Prop} {s : System} (h : Reachable ok s) :
    Reachable Always s := by
  obtain ⟨bootTime, hpos, hrun⟩ := h
  exact ⟨bootTime, hpos, hrun.mono fun _ _ _ => trivial⟩

/-- Guarded runs go on. -/
theorem Reachable.reaches {ok : System → Action → Prop} {s s' : System} (h : Reachable ok s)
    (hrun : Reaches System.step ok s s') : Reachable ok s' := by
  obtain ⟨bootTime, hpos, hinit⟩ := h
  exact ⟨bootTime, hpos, hinit.trans hrun⟩

/-- **Invariant rule.** What holds of a new manager and is kept by every case of a guarded step
    holds in every state of the guarded runs. -/
theorem Reachable.invariant {ok : System → Action → Prop} {Inv : System → Prop} {s : System}
    (h : Reachable ok s) (hinit : ∀ bootTime, 0 < bootTime → Inv (System.init bootTime))
    (hstep : ∀ t a t', Inv t → ok t a → StepCase t a t' → Inv t') : Inv s := by
  obtain ⟨bootTime, hpos, hrun⟩ := h
  exact hrun.invariant (fun t a t' ht hok hs => hstep t a t' ht hok (System.stepCase hs))
    (hinit bootTime hpos)

/-- A computed run reaches a state that passes a check. -/
theorem exists_reachable {ok : System → Action → Prop} {okb : System → Action → Bool}
    (hok : ∀ t a, okb t a = true → ok t a) {bootTime : ℤ} (hpos : 0 < bootTime)
    (acts : List Action) (check : System → Bool)
    (h : (runWhen System.step okb (System.init bootTime) acts).any check = true) :
    ∃ s, Reachable ok s ∧ check s = true := by
  obtain ⟨s, hrun, hcheck⟩ := exists_reaches_of_runWhen hok acts check h
  exact ⟨s, ⟨bootTime, hpos, hrun⟩, hcheck⟩

/-- A computed run of any steps, of a manager created a second after the boot. -/
theorem exists_reached (acts : List Action) (check : System → Bool)
    (h : (runWhen System.step (fun _ _ => true) (System.init 1000000000) acts).any check = true) :
    ∃ s, Reachable Always s ∧ check s = true :=
  exists_reachable (fun _ _ _ => trivial) (by decide) acts check h

/-! ### Undisturbed calls

The regions of one call or one looper iteration with nothing in between. -/

def startTimerCall (timerNumber triggerTime : ℕ) (isSystemUid : ℤ → Bool) (clock : Clock) :
    List Action :=
  [.startTimer timerNumber triggerTime isSystemUid clock, .setHandlerLocked]

def stopTimerCall (timerNumber : ℕ) (clock : Clock) : List Action :=
  [.stopTimer timerNumber, .removeHandler fun _ => clock, .removeProxy, .finishStop]

def destroyTimerCall (timerNumber : ℕ) (clock : Clock) : List Action :=
  [.destroyTimer timerNumber, .removeHandler fun _ => clock, .removeProxy, .finishStop]

/-- The last region of an iteration. -/
def passRegion (triggerList : List TimerInfo) : List Action :=
  .pass triggerList :: triggerList.map (fun _ => .deliver) ++ [.reschedule]

/-- An iteration after the expiry of the kernel timer of `alarmIdx`. -/
def expiryIteration (alarmIdx : Fin (alarmTypeCount + 1)) (clock : Clock)
    (triggerList : List TimerInfo) : List Action :=
  [.wake (some [(alarmIdx, .expired)]) clock.rtc, .timeChange fun _ => clock]
    ++ passRegion triggerList

/-- An iteration after a change of the wall clock. -/
def clockChangeIteration (clock : Clock) : List Action :=
  [.wake (some [(⟨alarmTypeCount, by decide⟩, .canceled)]) clock.rtc, .timeChange fun _ => clock]
    ++ passRegion []

/-! ### Rules for steps -/

/-- **Call rule.** What `SetHandler` gives an alarm, an alarm that waits for `mutex_` has. -/
theorem StepCase.called {P : TimerInfo → Prop} {s s' : System} {a : Action} (h : StepCase s a s')
    (hinv : ∀ alarm, s.entryCall = some (.setHandlerLocked alarm) → P alarm)
    (hset : ∀ timerNumber triggerTime isSystemUid clock (entry : TimerEntry) alarm,
      a = .startTimer timerNumber triggerTime isSystemUid clock →
      s.timerEntryMap.lookup timerNumber = some entry →
      setHandler isSystemUid s.bootTime clock entry.id entry.type triggerTime entry.windowLength
        entry.interval entry.flag entry.callback entry.uid = some alarm → P alarm) :
    ∀ alarm, s'.entryCall = some (.setHandlerLocked alarm) → P alarm := by
  intro alarm halarm
  cases h with
  | start timerNumber triggerTime isSystemUid clock entry x hfree hentry hx =>
    cases halarm
    exact hset timerNumber triggerTime isSystemUid clock entry alarm rfl hentry hx
  -- the other calls leave the caller waiting for something else, or for nothing
  | insert | stop | remove | removeProxy | finish => cases halarm
  | _ => exact hinv alarm halarm

/-- **Batch rule.** `Good` is what alarms have when they are inserted.  What is kept by clearing the
    batches, by inserting good alarms, by popping the first batch and by a removal without rebatch
    is kept by every step. -/
theorem StepCase.batches {Inv : List Batch → List Insertion → Prop} {Good : TimerInfo → Prop}
    {s s' : System} {a : Action} (h : StepCase s a s')
    (hinv : Inv s.schedule.alarmBatches s.schedule.insertions)
    (hclear : ∀ bs ins, Inv bs ins → Inv [] ins)
    (hcall : ∀ alarm, s.entryCall = some (.setHandlerLocked alarm) → Good alarm)
    (hnext : ∀ nowElapsed (x : TimerInfo), 0 < x.repeatInterval → Good (x.next nowElapsed))
    (hreAdded : ∀ nowElapsed clock (x y : TimerInfo), x.reAdded nowElapsed clock = some y → Good y)
    (hinsert : ∀ bs ins alarm, Good alarm → Inv bs ins →
      Inv (insertAndBatch bs alarm) (ins ++ [⟨bs, alarm⟩]))
    (hpop : ∀ b rest ins, Inv (b :: rest) ins → Inv rest ins)
    (hremove : ∀ timerNumber uid needDestroy clocks, a = .removeHandler clocks →
      s.entryCall = some (.removeHandler timerNumber uid needDestroy) →
      (removeBatches timerNumber s.schedule.alarmBatches false).2 = false →
      Inv (removeBatches timerNumber s.schedule.alarmBatches false).1 s.schedule.insertions) :
    Inv s'.schedule.alarmBatches s'.schedule.insertions := by
  -- a rebatch starts from no batches and inserts what it re-adds
  have hrebatch : ∀ (t : Schedule) (clocks : ℕ → Clock), t.insertions = s.schedule.insertions →
      Inv (t.reBatchAllTimersLocked s.bootTime clocks).alarmBatches
        (t.reBatchAllTimersLocked s.bootTime clocks).insertions := by
    intro t clocks hsame
    refine Schedule.reBatchAllTimersLocked_invariant (hsame ▸ hclear _ _ hinv) ?_
    intro bs ins x hx hbs
    obtain ⟨y, _, clock, hy⟩ := exists_of_mem_reAddedAll hx
    exact hinsert bs ins x (hreAdded _ clock y x hy) hbs
  cases h with
  | insert alarm halarm =>
    show Inv (s.schedule.setHandlerLocked alarm false).alarmBatches
      (s.schedule.setHandlerLocked alarm false).insertions
    rw [Schedule.setHandlerLocked_alarmBatches, Schedule.setHandlerLocked_insertions]
    exact hinsert _ _ alarm (hcall alarm halarm) hinv
  | remove timerNumber uid needDestroy clocks hentry =>
    show Inv (s.schedule.removeLocked timerNumber s.bootTime clocks).alarmBatches
      (s.schedule.removeLocked timerNumber s.bootTime clocks).insertions
    rcases s.schedule.removeLocked_cases timerNumber s.bootTime clocks with
      ⟨_, heq⟩ | ⟨hdid, heq⟩
    · rw [heq]
      exact hrebatch _ clocks rfl
    · rw [heq]
      exact hremove timerNumber uid needDestroy clocks rfl hentry hdid
  | rebatch result nowRtc nowElapsed clocks => exact hrebatch s.schedule clocks rfl
  | trigger result nowElapsed triggerList =>
    exact Schedule.triggerTimersLocked_invariant hinv hpop fun bs ins x hbs hr =>
      hinsert bs ins _ (hnext nowElapsed x hr) hbs
  | _ => exact hinv

/-- **Pending rule.** What the inserted alarm has and re-adding and every pass keep, all pending
    alarms keep having. -/
theorem StepCase.pending_of_pass {P : TimerInfo → Prop} {s s' : System} {a : Action}
    (h : StepCase s a s') (hinv : ∀ x ∈ pending s.schedule.alarmBatches, P x)
    (hcall : ∀ alarm, s.entryCall = some (.setHandlerLocked alarm) → P alarm)
    (hpass : ∀ nowElapsed triggerList, a = .pass triggerList →
      s.TriggerList nowElapsed triggerList →
      ∀ x ∈ pending (s.schedule.triggerTimersLocked nowElapsed).schedule.alarmBatches, P x)
    (hreAdded : ∀ nowElapsed clock x y, P x → x.reAdded nowElapsed clock = some y → P y) :
    ∀ x ∈ pending s'.schedule.alarmBatches, P x := by
  cases h with
  | insert alarm halarm =>
    intro x hx
    have hx' : x ∈ TimeService.pending (insertAndBatch s.schedule.alarmBatches alarm) := by
      rw [← Schedule.setHandlerLocked_alarmBatches s.schedule alarm false]
      exact hx
    rcases mem_pending_insertAndBatch.mp hx' with rfl | hx'
    · exact hcall x halarm
    · exact hinv x hx'
  | remove timerNumber uid needDestroy clocks hentry =>
    exact Schedule.removeLocked_forall (fun x hx _ => hinv x hx) hreAdded
  | rebatch result nowRtc nowElapsed clocks =>
    exact Schedule.reBatchAllTimersLocked_forall hinv hreAdded
  | trigger result nowElapsed triggerList _ hlist => exact hpass nowElapsed triggerList rfl hlist
  | _ => exact hinv

/-- The pending rule for what re-arming keeps. -/
theorem StepCase.pending {P : TimerInfo → Prop} {s s' : System} {a : Action}
    (h : StepCase s a s') (hinv : ∀ x ∈ pending s.schedule.alarmBatches, P x)
    (hcall : ∀ alarm, s.entryCall = some (.setHandlerLocked alarm) → P alarm)
    (hnext : ∀ nowElapsed x, P x → P (x.next nowElapsed))
    (hreAdded : ∀ nowElapsed clock x y, P x → x.reAdded nowElapsed clock = some y → P y) :
    ∀ x ∈ pending s'.schedule.alarmBatches, P x :=
  h.pending_of_pass hinv hcall
    (fun nowElapsed _ _ _ => (Schedule.triggerTimersLocked_forall hinv (hnext nowElapsed)).1)
    hreAdded

/-- Every step keeps the representation invariant of the batches. -/
theorem StepCase.batches_wf {s s' : System} {a : Action} (h : StepCase s a s')
    (hwf : ∀ b ∈ s.schedule.alarmBatches, b.WF) : ∀ b ∈ s'.schedule.alarmBatches, b.WF := by
  refine @StepCase.batches (fun bs _ => ∀ b ∈ bs, b.WF) (fun _ => True) s s' a h hwf
    (fun _ _ _ b hb => by cases hb) (fun _ _ => trivial) (fun _ _ _ => trivial)
    (fun _ _ _ _ _ => trivial) (fun bs _ alarm _ hbs => insertAndBatch_wf hbs alarm)
    (fun _ _ _ hbs b hb => hbs b (List.mem_cons_of_mem _ hb)) ?_
  intro timerNumber _ _ _ _ _ _
  exact removeBatches_wf hwf

/-- In every reachable state every batch has its representation invariant. -/
theorem Reachable.batches_wf {ok : System → Action → Prop} {s : System} (h : Reachable ok s) :
    ∀ b ∈ s.schedule.alarmBatches, b.WF :=
  @Reachable.invariant ok (fun t => ∀ b ∈ t.schedule.alarmBatches, b.WF) s h
    (fun _ _ b hb => by cases hb) (fun _ _ _ ht _ hcase => hcase.batches_wf ht)

/-- A step of the manager runs operations on the proxy table, or none. -/
theorem StepCase.proxy_run {s s' : System} {a : Action} (h : StepCase s a s')
    (hrun : ∃ ops, s.proxy = ProxyRun.run ops) : ∃ ops, s'.proxy = ProxyRun.run ops := by
  obtain ⟨ops, hops⟩ := hrun
  have hstep : ∀ op, ∃ ops', s.proxy.step op = ProxyRun.run ops' := fun op =>
    ⟨ops ++ [op], by rw [hops, ProxyRun.run_step]⟩
  cases h with
  | removeProxy timerNumber uid => exact hstep (.removeProxy timerNumber uid)
  | proxyTimer uid isProxy needRetrigger => exact hstep (.proxyTimer uid isProxy needRetrigger)
  | resetAllProxy => exact hstep .resetAllProxy
  | deliver alarm => exact hstep (.deliver alarm)
  | _ => exact ⟨ops, hops⟩

/-- **The manager runs the proxy table.** In every reachable state the table and the callbacks
    invoked are those of a run of proxy operations, so what is shown of all such runs holds. -/
theorem Reachable.proxy_run {ok : System → Action → Prop} {s : System} (h : Reachable ok s) :
    ∃ ops, s.proxy = ProxyRun.run ops :=
  @Reachable.invariant ok (fun t => ∃ ops, t.proxy = ProxyRun.run ops) s h
    (fun _ _ => ⟨[], rfl⟩) fun _ _ _ ht _ hcase => hcase.proxy_run ht

end TimeService
