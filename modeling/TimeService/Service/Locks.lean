import TimeService.Lib.LockOrder
import TimeService.Timer.Handler

namespace TimeService.Locks

open Transition LockOrder

/-!
# The locks of the timer service

`mutex_`, `entryMapMutex_` and `proxyMutex_` of `TimerManager`, `timerInfoMutex_` of the client's
`TimerCallback`, and the synchronous requests between the processes.  A path keeps of a function of
the source what it does with these; its arguments say which branches it takes.

* `callbacks_deadlock_free_iff`: the service and its clients do not deadlock, whatever the order of
  their steps, exactly when no `OnTrigger` calls the timer functions of the client.  The looper
  calls out under `mutex_` and `proxyMutex_`, the client calls out under `timerInfoMutex_`, and each
  of these functions needs a lock above.
-/

inductive Lock
  | mutex
  | entryMapMutex
  | proxyMutex
  | timerInfoMutex
deriving DecidableEq, Repr

/-- A call of `TimeServiceClient` that reaches `TimerManager`; one that ends before takes none of
    the locks.  `found`: the timer is in `timerEntryMap_`; `scheduled`: the trigger time has not
    passed; `answer`: what the client reads in the reply is not 0, or is true. -/
inductive ApiCall
  | createTimer (answer : Bool)
  | startTimer (found scheduled : Bool)
  | stopTimer (found : Bool)
  | destroyTimer (found answer : Bool)
deriving DecidableEq, Repr

/-- What a call of `alarm->callback` comes to: the callback of `NtpUpdateTime`, or that of a
    client's timer, whose request may fail before it is sent.  `onTrigger` lists the calls that
    `OnTrigger` makes; it is `none` when the client finds no such timer. -/
inductive AlarmCallback
  | refreshNetworkTimeByTimer
  | notifyNotSent
  | notifyTimer (onTrigger : Option (List ApiCall))
deriving DecidableEq, Repr

/-- An alarm of the looper's `triggerList`. -/
structure TriggeredAlarm where
  callback : Option AlarmCallback
  proxied : Bool
deriving DecidableEq, Repr

/-- One round of the looper: what `WaitForAlarm` returns and what is then triggered. -/
structure LooperRound where
  result : BitVec 32
  triggerList : List TriggeredAlarm
deriving DecidableEq, Repr

/-- What runs on a thread of its own. -/
inductive Procedure
  | timerLooper (rounds : List LooperRound)
  | createTimer
  | startTimer (found scheduled : Bool)
  | stopTimer (found : Bool)
  | destroyTimer (found : Bool)
  | showTimer
  | proxyTimer (isProxy inProxyUids needRetrigger : Bool) (queue : List (Option AlarmCallback))
  | resetAllProxy (queues : List (List (Option AlarmCallback)))
  | notifyTimer (onTrigger : Option (List ApiCall))
  | apiCall (call : ApiCall)
deriving DecidableEq, Repr

abbrev Path := List (Op Lock Procedure)

/-! ### `TimerManager` -/

/-- `TimerManager::CreateTimer`. -/
def createTimer : Path := lockGuard .entryMapMutex []

/-- `TimerManager::SetHandler`. -/
def setHandler (scheduled : Bool) : Path :=
  if scheduled then lockGuard .mutex [] else []

/-- `TimerManager::StartTimer`. -/
def startTimer (found scheduled : Bool) : Path :=
  lockGuard .entryMapMutex (if found then setHandler scheduled else [])

/-- `TimerManager::RemoveHandler`. -/
def removeHandler : Path := lockGuard .mutex []

/-- `TimerManager::RemoveProxy`. -/
def removeProxy : Path := lockGuard .proxyMutex []

/-- `TimerManager::StopTimerInner`. -/
def stopTimerInner (found : Bool) : Path :=
  lockGuard .entryMapMutex (if found then removeHandler ++ removeProxy else [])

/-- `ShowtimerEntryMap`, `ShowTimerEntryById` and `ShowTimerTriggerById`. -/
def showTimer : Path := lockGuard .entryMapMutex []

def AlarmCallback.call : AlarmCallback → Path
  | .refreshNetworkTimeByTimer => []
  | .notifyNotSent => []
  | .notifyTimer onTrigger => [.request (.notifyTimer onTrigger)]

/-- The loop over the alarms of a uid in `ProxyTimer` and `ResetAllProxy`. -/
def callbackAlarms (queue : List (Option AlarmCallback)) : Path :=
  queue.flatMap fun callback => callback.elim [] AlarmCallback.call

/-- `TimerManager::ProxyTimer`; `inProxyUids`: the uid is found in `proxyUids_`. -/
def proxyTimer (isProxy inProxyUids needRetrigger : Bool) (queue : List (Option AlarmCallback)) :
    Path :=
  lockGuard .proxyMutex
    (if isProxy then [] else if !inProxyUids then [] else if !needRetrigger then []
      else callbackAlarms queue)

/-- `TimerManager::ResetAllProxy`. -/
def resetAllProxy (queues : List (List (Option AlarmCallback))) : Path :=
  lockGuard .proxyMutex (queues.flatMap callbackAlarms)

/-- `TimerManager::CallbackAlarmIfNeed`. -/
def callbackAlarmIfNeed (callback : AlarmCallback) (proxied : Bool) : Path :=
  lockGuard .proxyMutex (if proxied then [] else callback.call)

/-- `TimerManager::DeliverTimersLocked`. -/
def deliverTimersLocked (triggerList : List TriggeredAlarm) : Path :=
  triggerList.flatMap fun alarm =>
    alarm.callback.elim [] fun callback => callbackAlarmIfNeed callback alarm.proxied

/-- The body of the loop of `TimerManager::TimerLooper`. -/
def LooperRound.path (round : LooperRound) : Path :=
  (if round.result &&& timeChangedMask ≠ 0 then lockGuard .mutex [] else [])
    ++ (if round.result ≠ timeChangedMask then
        lockGuard .mutex (deliverTimersLocked round.triggerList)
      else lockGuard .mutex [])

/-- `TimerManager::TimerLooper`. -/
def timerLooper (rounds : List LooperRound) : Path := rounds.flatMap LooperRound.path

/-! ### The client -/

/-- `TimerCallback::InsertTimerCallbackInfo`. -/
def insertTimerCallbackInfo : Path := lockGuard .timerInfoMutex []

/-- `TimerCallback::RemoveTimerCallbackInfo`. -/
def removeTimerCallbackInfo : Path := lockGuard .timerInfoMutex []

/-- What the service runs for a call. -/
def ApiCall.request : ApiCall → Procedure
  | .createTimer _ => .createTimer
  | .startTimer found scheduled => .startTimer found scheduled
  | .stopTimer found => .stopTimer found
  | .destroyTimer found _ => .destroyTimer found

/-- What the client does after the reply. -/
def ApiCall.replied : ApiCall → Path
  | .createTimer answer => if answer then insertTimerCallbackInfo else []
  | .startTimer _ _ => []
  | .stopTimer _ => []
  | .destroyTimer _ answer => if answer then removeTimerCallbackInfo else []

/-- `CreateTimer`, `StartTimer`, `StopTimer` and `DestroyTimer` of `TimeServiceClient`. -/
def ApiCall.path (call : ApiCall) : Path := [.request call.request] ++ call.replied

/-- `TimerCallback::NotifyTimer`. -/
def notifyTimer (onTrigger : Option (List ApiCall)) : Path :=
  lockGuard .timerInfoMutex (onTrigger.elim [] fun calls => calls.flatMap ApiCall.path)

/-! ### The system -/

def body : Procedure → Path
  | .timerLooper rounds => timerLooper rounds
  | .createTimer => createTimer
  | .startTimer found scheduled => startTimer found scheduled
  | .stopTimer found => stopTimerInner found
  | .destroyTimer found => stopTimerInner found
  | .showTimer => showTimer
  | .proxyTimer isProxy inProxyUids needRetrigger queue =>
    proxyTimer isProxy inProxyUids needRetrigger queue
  | .resetAllProxy queues => resetAllProxy queues
  | .notifyTimer onTrigger => notifyTimer onTrigger
  | .apiCall call => call.path

/-- There is one looper, and only the service notifies.  Everything else comes from outside, at any
    time and any number of times. -/
def system : Program Lock Procedure where
  body := body
  root
    | .timerLooper _ => false
    | .notifyTimer _ => false
    | _ => true

/-- The looper alone. -/
def start (rounds : List LooperRound) : List (Thread Lock Procedure) :=
  [system.begin (.timerLooper rounds)]

/-- `OnTrigger`, where the procedure calls it, makes only calls that it may make. -/
def OnTriggerCalls (mayCall : ApiCall → Prop) : Procedure → Prop
  | .notifyTimer (some calls) => ∀ call ∈ calls, mayCall call
  | _ => True

/-! ### The order of the locks -/

def levels : Levels Lock Procedure where
  lock
    | .timerInfoMutex => 1
    | .proxyMutex => 2
    | .mutex => 3
    | .entryMapMutex => 4
  proc
    | .notifyTimer _ => 1
    | .proxyTimer .. => 2
    | .resetAllProxy _ => 2
    | .timerLooper _ => 3
    | .apiCall _ => 5
    | _ => 4

section
variable {k : ℕ} {held : List Lock}

/-- The service notifies under locks above that of the client. -/
theorem AlarmCallback.call_safe (hk : 1 < k) (hheld : ∀ h ∈ held, 1 < levels.lock h)
    (callback : AlarmCallback) : levels.Safe k held callback.call := by
  cases callback with
  | refreshNetworkTimeByTimer => exact .nil
  | notifyNotSent => exact .nil
  | notifyTimer onTrigger => exact .request hk hheld

theorem callbackAlarms_safe (hk : 1 < k) (hheld : ∀ h ∈ held, 1 < levels.lock h)
    (queue : List (Option AlarmCallback)) : levels.Safe k held (callbackAlarms queue) := by
  apply Levels.Safe.flatMap
  intro callback _
  cases callback with
  | none => exact .nil
  | some callback => exact callback.call_safe hk hheld

end

/-- A round of the looper calls out under `mutex_` and, inside it, `proxyMutex_`. -/
theorem LooperRound.path_safe (round : LooperRound) : levels.Safe 3 [] round.path := by
  have hidle : levels.Safe 3 [] (lockGuard .mutex []) := .lockGuard (by decide) (by decide) .nil
  have hdeliver : levels.Safe 3 [.mutex] (deliverTimersLocked round.triggerList) := by
    apply Levels.Safe.flatMap
    intro alarm _
    cases alarm.callback with
    | none => exact .nil
    | some callback =>
      apply Levels.Safe.lockGuard (by decide) (by decide)
      exact .ite (fun _ => .nil) fun _ => callback.call_safe (by decide) (by decide)
  apply Levels.Safe.append
  · exact .ite (fun _ => hidle) fun _ => .nil
  · exact .ite (fun _ => .lockGuard (by decide) (by decide) hdeliver) fun _ => hidle

theorem startTimer_safe (found scheduled : Bool) :
    levels.Safe 4 [] (startTimer found scheduled) := by
  apply Levels.Safe.lockGuard (by decide) (by decide)
  refine .ite (fun _ => ?_) fun _ => .nil
  exact .ite (fun _ => .lockGuard (by decide) (by decide) .nil) fun _ => .nil

theorem stopTimerInner_safe (found : Bool) : levels.Safe 4 [] (stopTimerInner found) := by
  apply Levels.Safe.lockGuard (by decide) (by decide)
  refine .ite (fun _ => ?_) fun _ => .nil
  -- one after the other, not one inside the other
  exact .append (.lockGuard (by decide) (by decide) .nil) (.lockGuard (by decide) (by decide) .nil)

theorem proxyTimer_safe (isProxy inProxyUids needRetrigger : Bool)
    (queue : List (Option AlarmCallback)) :
    levels.Safe 2 [] (proxyTimer isProxy inProxyUids needRetrigger queue) := by
  apply Levels.Safe.lockGuard (by decide) (by decide)
  refine .ite (fun _ => .nil) fun _ => .ite (fun _ => .nil) fun _ => ?_
  refine .ite (fun _ => .nil) fun _ => ?_
  exact callbackAlarms_safe (by decide) (by decide) queue

theorem resetAllProxy_safe (queues : List (List (Option AlarmCallback))) :
    levels.Safe 2 [] (resetAllProxy queues) := by
  apply Levels.Safe.lockGuard (by decide) (by decide)
  exact .flatMap fun queue _ => callbackAlarms_safe (by decide) (by decide) queue

/-- Outside of `OnTrigger` a client holds no lock when it calls. -/
theorem ApiCall.path_safe (call : ApiCall) : levels.Safe 5 [] call.path := by
  have hrequest : levels.Safe 5 [] [.request call.request] := by
    refine .request ?_ fun h hh => (List.not_mem_nil hh).elim
    cases call <;> exact Nat.lt_succ_self 4
  have hinfo : levels.Safe 5 [] (lockGuard .timerInfoMutex []) :=
    .lockGuard (by decide) (by decide) .nil
  apply hrequest.append
  cases call with
  | createTimer answer => exact .ite (fun _ => hinfo) fun _ => .nil
  | startTimer found scheduled => exact .nil
  | stopTimer found => exact .nil
  | destroyTimer found answer => exact .ite (fun _ => hinfo) fun _ => .nil

/-- Every procedure keeps to the order of the locks, when `OnTrigger` makes no call. -/
theorem body_disciplined {mayCall : ApiCall → Prop} (hno : ∀ call, ¬mayCall call)
    (p : Procedure) (hp : OnTriggerCalls mayCall p) :
    levels.Disciplined (levels.proc p) [] (system.body p) := by
  apply Levels.Safe.disciplined
  cases p with
  | timerLooper rounds => exact .flatMap fun round _ => round.path_safe
  | createTimer => exact .lockGuard (by decide) (by decide) .nil
  | startTimer found scheduled => exact startTimer_safe found scheduled
  | stopTimer found => exact stopTimerInner_safe found
  | destroyTimer found => exact stopTimerInner_safe found
  | showTimer => exact .lockGuard (by decide) (by decide) .nil
  | proxyTimer isProxy inProxyUids needRetrigger queue =>
    exact proxyTimer_safe isProxy inProxyUids needRetrigger queue
  | resetAllProxy queues => exact resetAllProxy_safe queues
  | notifyTimer onTrigger =>
    apply Levels.Safe.lockGuard (Nat.le_refl 1) (by decide)
    cases onTrigger with
    | none => exact .nil
    | some calls => exact .flatMap fun call hmem => (hno call (hp call hmem)).elim
  | apiCall call => exact call.path_safe

/-! ### A callback that calls -/

/-- Each call needs `entryMapMutex_` in the service. -/
theorem ApiCall.request_body (call : ApiCall) :
    ∃ rest, system.body call.request = .lock .entryMapMutex :: rest := by
  cases call <;> exact ⟨_, rfl⟩

/-- The looper delivers one alarm, and its `OnTrigger` makes one call. -/
def roundOf (call : ApiCall) : LooperRound :=
  ⟨1#32, [⟨some (.notifyTimer (some [call])), false⟩]⟩

/-- The looper notifies, `OnTrigger` calls; another client's `StartTimer` has `entryMapMutex_`. -/
def crossing : List (Action Procedure) :=
  [.run 0, .run 0, .run 0, .run 1, .spawn (.startTimer true true), .run 2, .run 1]

/-- Where the looper waits for the client, the client for its call, the call for `entryMapMutex_`,
    and the other `StartTimer` for `mutex_`, which the looper holds. -/
def crossed (call : ApiCall) : List (Thread Lock Procedure) :=
  [⟨[.proxyMutex, .mutex],
      [.request (.notifyTimer (some [call])), .unlock .proxyMutex, .unlock .mutex], some 1⟩,
   ⟨[.timerInfoMutex],
      .request call.request :: (call.replied ++ [.unlock .timerInfoMutex]), some 3⟩,
   ⟨[.entryMapMutex], [.lock .mutex, .unlock .mutex, .unlock .entryMapMutex], none⟩,
   ⟨[], system.body call.request, none⟩]

theorem run_crossing (call : ApiCall) :
    run system (start [roundOf call]) crossing
      = some (crossed call,
        [.notifyTimer (some [call]), .startTimer true true, call.request]) := by
  rcases call with (_ | _) | ⟨_ | _, _ | _⟩ | (_ | _) | ⟨_ | _, _ | _⟩ <;> rfl

theorem crossed_deadlocked (call : ApiCall) : Deadlocked (crossed call) := by
  refine ⟨{i | i < 4}, ⟨0, Nat.zero_lt_succ 3⟩, ?_⟩
  intro i hi
  obtain ⟨rest, hbody⟩ := call.request_body
  have hcases : i = 0 ∨ i = 1 ∨ i = 2 ∨ i = 3 := by
    have : i < 4 := hi
    omega
  rcases hcases with rfl | rfl | rfl | rfl
  · exact ⟨_, 1, by decide, .reply _ _ _ _ 1 rfl rfl rfl rfl (List.cons_ne_nil _ _)⟩
  · refine ⟨_, 3, by decide, .reply _ _ _ _ 3 rfl rfl rfl rfl ?_⟩
    show system.body call.request ≠ []
    rw [hbody]
    exact List.cons_ne_nil _ _
  · exact ⟨_, 0, by decide,
      .lock _ _ .mutex _ 0 rfl rfl rfl (List.mem_cons_of_mem _ List.mem_cons_self)⟩
  · exact ⟨_, 2, by decide, .lock _ _ .entryMapMutex rest 2 rfl hbody rfl List.mem_cons_self⟩

/-- **No deadlock.** Whatever the looper delivers and whatever requests come, in the runs whose
    `OnTrigger`s make only the calls that they may make no state is deadlocked, exactly when they
    may make none. -/
theorem callbacks_deadlock_free_iff (mayCall : ApiCall → Prop) :
    (∀ (rounds : List LooperRound) (s : List (Thread Lock Procedure)),
      Reaches (step system) (Starts (OnTriggerCalls mayCall)) (start rounds) s → ¬Deadlocked s)
      ↔ ∀ call, ¬mayCall call := by
  constructor
  · intro h call hcall
    have hstarted : ∀ p ∈ [Procedure.notifyTimer (some [call]), .startTimer true true,
        call.request], OnTriggerCalls mayCall p := by
      simp only [List.forall_mem_cons]
      refine ⟨?_, trivial, ?_, fun p hp => (List.not_mem_nil hp).elim⟩
      · intro c hc
        rwa [List.mem_singleton.mp hc]
      · cases call <;> trivial
    have hrun := reaches_of_run crossing _ _ (run_crossing call) hstarted
    exact h _ _ hrun (crossed_deadlocked call)
  · intro hno rounds s h
    have hstart := Levels.ordered_singleton (body_disciplined hno (.timerLooper rounds) trivial)
    exact no_deadlock (body_disciplined hno) hstart h

/-- `OnTrigger` has stopped its own timer: `StopTimer` stands in front of `mutex_`. -/
def stopped : List (Thread Lock Procedure) :=
  [⟨[.proxyMutex, .mutex],
      [.request (.notifyTimer (some [.stopTimer true])), .unlock .proxyMutex, .unlock .mutex],
      some 1⟩,
   ⟨[.timerInfoMutex], [.request (.stopTimer true), .unlock .timerInfoMutex], some 2⟩,
   ⟨[.entryMapMutex],
      [.lock .mutex, .unlock .mutex, .lock .proxyMutex, .unlock .proxyMutex,
        .unlock .entryMapMutex], none⟩]

/-- The looper holds `mutex_` and waits for `OnTrigger`, `OnTrigger` waits for `StopTimer`, and
    `StopTimer` waits for `mutex_`. -/
theorem stopTimer_in_onTrigger :
    ∃ s, Reaches (step system) (Starts (OnTriggerCalls fun _ => True))
        (start [roundOf (.stopTimer true)]) s ∧ Deadlocked s := by
  have hrun : run system (start [roundOf (.stopTimer true)])
      [.run 0, .run 0, .run 0, .run 1, .run 1, .run 2]
        = some (stopped, [.notifyTimer (some [.stopTimer true]), .stopTimer true]) := rfl
  refine ⟨stopped, reaches_of_run _ _ _ hrun ?_, {i | i < 3}, ⟨0, Nat.zero_lt_succ 2⟩, ?_⟩
  · simp only [List.forall_mem_cons]
    exact ⟨fun _ _ => trivial, trivial, fun p hp => (List.not_mem_nil hp).elim⟩
  · intro i hi
    have hcases : i = 0 ∨ i = 1 ∨ i = 2 := by
      have : i < 3 := hi
      omega
    rcases hcases with rfl | rfl | rfl
    · exact ⟨_, 1, by decide, .reply _ _ _ _ 1 rfl rfl rfl rfl (List.cons_ne_nil _ _)⟩
    · exact ⟨_, 2, by decide, .reply _ _ _ _ 2 rfl rfl rfl rfl (List.cons_ne_nil _ _)⟩
    · exact ⟨_, 0, by decide, .lock _ _ .mutex _ 0 rfl rfl rfl (by decide)⟩

end TimeService.Locks
