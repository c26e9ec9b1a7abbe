import TimeService.Ipc.Stub
import TimeService.Timer.Start

namespace TimeService

open Transition

/-!
# Timer calls of the service

`TimeService::CreateTimer` and `TimeService::DestroyTimer` of `time_service.cpp` over
`TimerManager`.  The calling uid, the number drawn, and whether a missing manager can be created
are arguments (`CreateTimerEnv`, `created`).
-/

/-! ### The manager's calls as a whole

A call that finds `mutex_` taken waits until the looper has delivered its trigger list and
rescheduled. -/

/-- The looper makes its deliveries and reschedules, which releases `mutex_`. -/
def System.deliverTimersLocked (s : System) : List TimerInfo → System
  | [] => s.reschedule
  | alarm :: rest => (s.deliver alarm rest).deliverTimersLocked rest

/-- `mutex_` is free: at once, or when the looper has come to the end of its iteration. -/
def System.untilReleased (s : System) : System :=
  match s.looper with
  | .delivering triggerList => s.deliverTimersLocked triggerList
  | _ => s

/-- The rest of an iteration ends in front of `WaitForAlarm`, and no call goes on in it. -/
theorem System.deliverTimersLocked_spec (triggerList : List TimerInfo) (s : System)
    (h : s.looper = .delivering triggerList) :
    Reaches System.step (fun _ _ => True) s (s.deliverTimersLocked triggerList) ∧
      (s.deliverTimersLocked triggerList).looper = .waiting ∧
      (s.deliverTimersLocked triggerList).entryCall = s.entryCall := by
  induction triggerList generalizing s with
  | nil =>
    have hstep : s.step .reschedule = some s.reschedule := by
      unfold System.step
      simp only [h]
    exact ⟨Reaches.refl.tail trivial hstep, rfl, rfl⟩
  | cons alarm rest ih =>
    have hstep : s.step .deliver = some (s.deliver alarm rest) := by
      unfold System.step
      simp only [h]
    obtain ⟨hrun, hwaiting, hcall⟩ := ih (s.deliver alarm rest) rfl
    exact ⟨(Reaches.refl.tail trivial hstep).trans hrun, hwaiting, hcall⟩

theorem System.untilReleased_spec (s : System) :
    Reaches System.step (fun _ _ => True) s s.untilReleased ∧
      s.untilReleased.looper.holdsMutex = false ∧ s.untilReleased.entryCall = s.entryCall := by
  unfold System.untilReleased
  split
  · rename_i triggerList hlooper
    obtain ⟨hrun, hwaiting, hcall⟩ := s.deliverTimersLocked_spec triggerList hlooper
    exact ⟨hrun, by rw [hwaiting]; rfl, hcall⟩
  · rename_i hfree
    refine ⟨Reaches.refl, ?_, rfl⟩
    cases hlooper : s.looper with
    | delivering triggerList => exact absurd hlooper (hfree triggerList)
    | _ => rfl

/-- `TimerManager::StopTimerInner` from its call to its return: its regions one after the other. -/
def System.stopWhole (s : System) (timerNumber : ℕ) (needDestroy : Bool) (clocks : ℕ → Clock) :
    Bool × System :=
  match s.timerEntryMap.lookup timerNumber with
  | none => (false, s)
  | some entry =>
    let locked := (s.stopTimerInner timerNumber needDestroy).untilReleased
    (true, ((locked.removeHandler timerNumber entry.uid needDestroy clocks).removeProxy timerNumber
      entry.uid needDestroy).finishStop timerNumber needDestroy)

/-- `TimerManager::DestroyTimer`, as a whole. -/
def System.destroyTimer (s : System) (timerNumber : ℕ) (clocks : ℕ → Clock) : Bool × System :=
  s.stopWhole timerNumber true clocks

/-- `TimerManager::StopTimer`, as a whole. -/
def System.stopTimer (s : System) (timerNumber : ℕ) (clocks : ℕ → Clock) : Bool × System :=
  s.stopWhole timerNumber false clocks

/-- A call that finds its timer is the run of its four regions, with the end of the looper's
    iteration in front of the second if it has to wait for it. -/
theorem System.stopWhole_reaches {s : System} (hfree : s.entryCall = none) {timerNumber : ℕ}
    {entry : TimerEntry} (hentry : s.timerEntryMap.lookup timerNumber = some entry)
    (needDestroy : Bool) (clocks : ℕ → Clock) :
    Reaches System.step (fun _ _ => True) s (s.stopWhole timerNumber needDestroy clocks).2 := by
  let called := s.stopTimerInner timerNumber needDestroy
  have hcalled : called
      = { s with entryCall := some (.removeHandler timerNumber entry.uid needDestroy) } := by
    show s.stopTimerInner timerNumber needDestroy = _
    rw [System.stopTimerInner, hentry]
  have hstop : s.step (.stop timerNumber needDestroy) = some called := by
    cases needDestroy with
    | false => exact if_neg (by rw [hfree]; decide)
    | true => exact if_neg (by rw [hfree]; decide)
  obtain ⟨hwait, hmutex, hsame⟩ := called.untilReleased_spec
  have hentered : called.untilReleased.entryCall
      = some (.removeHandler timerNumber entry.uid needDestroy) := by
    rw [hsame, hcalled]
  have hremove : called.untilReleased.step (.removeHandler clocks) = some
      (called.untilReleased.removeHandler timerNumber entry.uid needDestroy clocks) := by
    unfold System.step
    simp only [hentered, hmutex]
    rfl
  unfold System.stopWhole
  rw [hentry]
  refine ((Reaches.refl.tail trivial hstop).trans hwait).trans ?_
  exact ((Reaches.refl.tail trivial hremove).tail trivial (a := .removeProxy) rfl).tail trivial
    (a := .finishStop) rfl

/-- `TimerManager::StartTimer`, as a whole. -/
def System.startWhole (s : System) (timerNumber triggerTime : ℕ) (isSystemUid : ℤ → Bool)
    (clock : Clock) : Bool × System :=
  (s.startTimerResult timerNumber,
    match s.startedAlarm timerNumber triggerTime isSystemUid clock with
    | none => s
    | some alarm =>
      (s.startTimer timerNumber triggerTime isSystemUid clock).untilReleased.setHandlerLocked alarm)

/-- A call that sets an alarm is the run of its two regions, with the same wait in between. -/
theorem System.startWhole_reaches {s : System} (hfree : s.entryCall = none)
    (timerNumber triggerTime : ℕ) (isSystemUid : ℤ → Bool) (clock : Clock) :
    Reaches System.step (fun _ _ => True) s
      (s.startWhole timerNumber triggerTime isSystemUid clock).2 := by
  have hstart := s.step_startTimer hfree timerNumber triggerTime isSystemUid clock
  unfold System.startWhole
  cases halarm : s.startedAlarm timerNumber triggerTime isSystemUid clock with
  | none => exact Reaches.refl
  | some alarm =>
    let called := s.startTimer timerNumber triggerTime isSystemUid clock
    have hcalled : called.entryCall = some (.setHandlerLocked alarm) := by
      show (s.startTimer timerNumber triggerTime isSystemUid clock).entryCall = _
      rw [System.startTimer, halarm]
    obtain ⟨hwait, hmutex, hsame⟩ := called.untilReleased_spec
    have hentered : called.untilReleased.entryCall = some (.setHandlerLocked alarm) :=
      hsame.trans hcalled
    have hinsert : called.untilReleased.step .setHandlerLocked
        = some (called.untilReleased.setHandlerLocked alarm) := by
      unfold System.step
      simp only [hentered, hmutex]
      rfl
    exact ((Reaches.refl.tail trivial hstart).trans hwait).tail trivial hinsert

/-- A timer that has been destroyed is not in the table. -/
theorem System.not_mem_destroyTimer (s : System) (timerNumber : ℕ) (clocks : ℕ → Clock) :
    timerNumber ∉ (s.destroyTimer timerNumber clocks).2.timerEntryMap := by
  unfold System.destroyTimer System.stopWhole
  cases hentry : s.timerEntryMap.lookup timerNumber with
  | none => exact AList.lookup_eq_none.mp hentry
  | some entry =>
    show timerNumber ∉
      (s.stopTimerInner timerNumber true).untilReleased.timerEntryMap.erase timerNumber
    simp [AList.mem_erase]

/-! ### The service's calls -/

/-- `TimeService::TimerPara`. -/
structure TimerPara where
  timerType : ℤ
  windowLength : ℤ
  interval : UInt64
  flag : ℤ
deriving DecidableEq, Repr

/-- `TIMER_TYPE_REALTIME_MASK`. -/
def timerTypeRealtimeMask : UInt32 := 1

/-- `TIMER_TYPE_REALTIME_WAKEUP_MASK`. -/
def timerTypeRealtimeWakeupMask : UInt32 := 2

/-- `TIMER_TYPE_EXACT_MASK`. -/
def timerTypeExactMask : UInt32 := 4

/-- `TimeService::PaserTimerPara`. -/
def paserTimerPara (type : Int32) (repeats : Bool) (interval : UInt64) : TimerPara :=
  let uIntType := type.toUInt32
  let isRealtime := decide (uIntType &&& timerTypeRealtimeMask > 0)
  let isWakeup := decide (uIntType &&& timerTypeRealtimeWakeupMask > 0)
  { timerType := if isRealtime && isWakeup then 2 else if isRealtime then 3 else if isWakeup then 0
      else 1
    windowLength := if uIntType &&& timerTypeExactMask > 0 then 0 else -1
    interval := if repeats then interval else 0
    flag := 0 }

/-- The timers of the service and of one client: `TimerInfoMap_` of the client's `TimerCallback`,
    and `timerManagerHandler_`. -/
structure TimerTables (α : Type) where
  timerInfoMap : AList fun _ : UInt64 => α
  timerManagerHandler : Option System

variable {α : Type}

/-- `timerEntryMap_` of the service; without a manager there is no entry. -/
def TimerTables.timerEntryMap (t : TimerTables α) : AList fun _ : ℕ => TimerEntry :=
  t.timerManagerHandler.elim ∅ System.timerEntryMap

/-- A call on `timerManagerHandler_`, which is created first when there is none: `created` is the
    boot time at which this succeeds. -/
def withTimerManager {β : Type} (created : Option ℤ) (failed : β) (call : System → β × System) :
    StateM (TimerTables α) β := fun t =>
  match t.timerManagerHandler.orElse fun _ => created.map System.init with
  | none => (failed, t)
  | some manager =>
    ((call manager).1, { t with timerManagerHandler := some (call manager).2 })

/-- What `TimeService::CreateTimer` meets: the caller, whether its object is an `ITimerCallback`,
    whether a missing manager can be created, and the number drawn. -/
structure CreateTimerEnv where
  callingUid : ℤ
  callbackOk : Bool
  created : Option ℤ
  timerNumber : { n : UInt64 // n ≠ 0 }

/-- `TimeService::CreateTimer`.  The window length is converted to `uint64_t`. -/
def createTimer (env : CreateTimerEnv) (type : Int32) (repeats : Bool)
    (interval : UInt64) (obj : RemoteObject) : StateM (TimerTables α) UInt64 :=
  if obj = none then pure 0
  else
    let paras := paserTimerPara type repeats interval
    if !env.callbackOk then pure 0
    else withTimerManager env.created 0 fun manager =>
      (env.timerNumber, manager.createTimer env.timerNumber.1.toNat paras.timerType
        (UInt64.ofInt paras.windowLength).toNat paras.interval.toNat paras.flag obj env.callingUid)

/-- A manager is there or can be created, so the call is made. -/
def TimerTables.HasManager (t : TimerTables α) (created : Option ℤ) : Prop :=
  t.timerManagerHandler.isSome ∨ created.isSome

/-- **A call on the manager.** It fails and changes nothing, or it is made on a manager with the
    table that there is. -/
theorem withTimerManager_cases {β : Type} (created : Option ℤ) (failed : β)
    (call : System → β × System) (t : TimerTables α) :
    (¬ t.HasManager created ∧ (withTimerManager created failed call).run t = (failed, t)) ∨
    (t.HasManager created ∧ ∃ manager, manager.timerEntryMap = t.timerEntryMap ∧
      (withTimerManager created failed call).run t
        = ((call manager).1, { t with timerManagerHandler := some (call manager).2 })) := by
  obtain ⟨timerInfoMap, timerManagerHandler⟩ := t
  unfold TimerTables.HasManager
  cases timerManagerHandler with
  | some manager => exact .inr ⟨.inl rfl, manager, rfl, rfl⟩
  | none =>
    cases created with
    | none => exact .inl ⟨by simp, rfl⟩
    | some bootTime => exact .inr ⟨.inr rfl, .init bootTime, rfl, rfl⟩

/-- The number that `CreateTimer` draws is in the table afterwards, in an entry of its own or in the
    one that was there. -/
theorem System.createTimer_mem (s : System) (timerNumber : ℕ) (type : ℤ)
    (windowLength interval : ℕ) (flag : ℤ) (callback : Callback) (uid : ℤ) :
    timerNumber ∈ (s.createTimer timerNumber type windowLength interval flag callback
      uid).timerEntryMap := by
  show timerNumber ∈ (if timerNumber ∈ s.timerEntryMap then s.timerEntryMap else _)
  split
  · assumption
  · simp

/-- **Cases of `TimeService::CreateTimer`.** It fails and leaves the tables alone, or it returns the
    number drawn, which is then in the service's table. -/
theorem createTimer_cases (env : CreateTimerEnv) (type : Int32) (repeats : Bool)
    (interval : UInt64) (obj : ℕ) (t : TimerTables α) :
    (¬ (env.callbackOk = true ∧ t.HasManager env.created) ∧
      (createTimer env type repeats interval (some obj)).run t = (0, t)) ∨
    (env.callbackOk = true ∧ t.HasManager env.created ∧
      ∃ t', (createTimer env type repeats interval (some obj)).run t = (env.timerNumber.1, t') ∧
        t'.timerInfoMap = t.timerInfoMap ∧ env.timerNumber.1.toNat ∈ t'.timerEntryMap ∧
        (env.timerNumber.1.toNat ∈ t.timerEntryMap → t'.timerEntryMap = t.timerEntryMap)) := by
  unfold createTimer
  rw [if_neg (by simp)]
  cases hcallback : env.callbackOk with
  | false => exact .inl ⟨by simp, rfl⟩
  | true =>
    simp only [Bool.not_true, Bool.false_eq_true, if_false, true_and]
    rcases withTimerManager_cases env.created 0 (fun manager : System =>
        (env.timerNumber.1, manager.createTimer env.timerNumber.1.toNat
          (paserTimerPara type repeats interval).timerType
          (UInt64.ofInt (paserTimerPara type repeats interval).windowLength).toNat
          (paserTimerPara type repeats interval).interval.toNat
          (paserTimerPara type repeats interval).flag (some obj) env.callingUid)) t with
      ⟨hno, hrun⟩ | ⟨hmanager, manager, htable, hrun⟩
    · exact .inl ⟨hno, hrun⟩
    · refine .inr ⟨hmanager, _, hrun, rfl, manager.createTimer_mem _ _ _ _ _ _ _, fun hused => ?_⟩
      rw [← htable] at hused ⊢
      show (if env.timerNumber.1.toNat ∈ manager.timerEntryMap then manager.timerEntryMap
        else _) = _
      rw [if_pos hused]

/-- `TimeService::DestroyTimer`. -/
def destroyTimer (created : Option ℤ) (clocks : ℕ → Clock) (timerId : UInt64) :
    StateM (TimerTables α) Bool :=
  withTimerManager created false fun manager => manager.destroyTimer timerId.toNat clocks

/-- When `TimeService::DestroyTimer` answers true, the timer is not in the service's table. -/
theorem destroyTimer_true {created : Option ℤ} {clocks : ℕ → Clock} {timerId : UInt64}
    {t : TimerTables α} (h : ((destroyTimer created clocks timerId).run t).1 = true) :
    ((destroyTimer created clocks timerId).run t).2.timerInfoMap = t.timerInfoMap ∧
    timerId.toNat ∉ ((destroyTimer created clocks timerId).run t).2.timerEntryMap := by
  unfold destroyTimer at h ⊢
  rcases withTimerManager_cases created false
      (fun manager : System => manager.destroyTimer timerId.toNat clocks) t with
    ⟨_, hrun⟩ | ⟨_, manager, _, hrun⟩
  · rw [hrun] at h
    cases h
  · rw [hrun]
    exact ⟨rfl, manager.not_mem_destroyTimer _ _⟩

/-- `TimeService::StartTimer`. -/
def startTimer (created : Option ℤ) (isSystemUid : ℤ → Bool) (clock : Clock)
    (timerId triggerTimes : UInt64) : StateM (TimerTables α) Bool :=
  withTimerManager created false fun manager =>
    manager.startWhole timerId.toNat triggerTimes.toNat isSystemUid clock

/-- `TimeService::StopTimer`. -/
def stopTimer (created : Option ℤ) (clocks : ℕ → Clock) (timerId : UInt64) :
    StateM (TimerTables α) Bool :=
  withTimerManager created false fun manager => manager.stopTimer timerId.toNat clocks

end TimeService
