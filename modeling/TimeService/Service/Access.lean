import TimeService.Lib.Run
import TimeService.Ipc.Requests
import TimeService.Ntp.AutoTime
import TimeService.Service.ProxyCalls
import TimeService.Service.TimerCalls
import TimeService.Zone.Persistence

namespace TimeService

open Effects

/-!
# Who may change what

`TimeService` behind its stub, with the permission checks of `time_permission.cpp`: requests of any
caller with any parcel, the timer of the network time and the network callback, the answers of the
NTP server and the thread of the timers, in any order.

A call of `SetSystemTime` goes on under the token of the thread that makes it, also after its wait
for the server: `waitingTokens` keeps these tokens in the order of the waiting calls.

* `clock_needs_permission`: as long as no token with the permission is at work, the clock is not
  set, by whatever way;
* `guarded_noninterference`: the timezone and the proxies are what the requests of callers with
  permission make of them.
-/

/-! ### Permissions -/

/-- `AccessTokenKit`: the type of a token, and whether a native token or the token of an
    application has been granted a permission. -/
structure AccessTokenKit where
  getTokenTypeFlag : UInt32 → ATokenType
  verifyNativeToken : UInt32 → String → Bool
  verifyAccessToken : UInt32 → String → Bool

/-- `TimePermission::CheckCallingPermission`. -/
def AccessTokenKit.checkCallingPermission (kit : AccessTokenKit) (callerToken : UInt32)
    (permissionName : String) : Bool :=
  if permissionName.isEmpty then false
  else match kit.getTokenTypeFlag callerToken with
    | .native => kit.verifyNativeToken callerToken permissionName
    | .hap => kit.verifyAccessToken callerToken permissionName
    | _ => false

/-- `setTimePermName_`. -/
def setTimePermName : String := "ohos.permission.SET_TIME"

/-- `setTimezonePermName_`. -/
def setTimezonePermName : String := "ohos.permission.SET_TIME_ZONE"

/-! ### The service -/

/-- The clocks that the getters read. -/
inductive ClockId
  | realtime
  | bootTime
  | monotonic
  | threadCputime
deriving DecidableEq, Repr

/-- What a call of `SetTime` meets, whoever makes it. -/
structure SettingEnv where
  kit : AccessTokenKit
  settimeofday : ℤ
  rtc : RtcDevice
  steadyTime : ℤ

/-- The same for a call under a token. -/
def SettingEnv.setTimeEnv (env : SettingEnv) (token : UInt32) : SetTimeEnv :=
  ⟨env.kit.checkCallingPermission token setTimePermName, env.settimeofday, env.rtc, env.steadyTime⟩

/-- What a request meets: its caller, the clocks, and whether the calls on the system succeed. -/
structure CallEnv extends SettingEnv where
  callerToken : UInt32
  clockGettime : ClockId → Option Timespec
  pthreadClock : Bool
  setenvOk : Bool
  save : SaveOutcome
  bootTimeNano : UInt64
  write : FileWrite
  timer : CreateTimerEnv
  isSystemUid : ℤ → Bool
  clock : Clock
  clocks : ℕ → Clock

/-- `TimeService` with the objects it works on. `timeZoneChanged` are the timezone events published
    so far; `performed` are the proxy operations. -/
structure Device where
  ntp : NtpUpdateTime
  waitingTokens : List UInt32
  zone : TimeZoneInfo
  timeZoneChanged : List ℤ
  timerManagerHandler : Option System
  performed : List ProxyOp

variable (json : JsonCodec) (offset : Int32)

/-- The answer of a method that can fail. -/
def statusOf : Except TimeError Unit → Int32
  | .ok _ => errOk
  | .error e => e.code offset

/-- `TimeService::SetTime`. -/
def Device.setTime (env : CallEnv) (time : Int64) : StateM Device Int32 := fun d =>
  let result := d.ntp.systemTime.setTime time.toInt (env.setTimeEnv env.callerToken)
  (statusOf offset result.1, { d with ntp := { d.ntp with systemTime := result.2 } })

/-- `TimeService::SetTimeZone`. -/
def Device.setTimeZone (env : CallEnv) (timeZoneId : String) : StateM Device Int32 := fun d =>
  if !env.kit.checkCallingPermission env.callerToken setTimezonePermName then
    (TimeError.noPermission.code offset, d)
  else
    let result := d.zone.setTimezone json timeZoneId env.setenvOk env.save
    if !result.1 then (TimeError.dealFailed.code offset, { d with zone := result.2 })
    else (errOk, { d with
      zone := result.2
      timeZoneChanged :=
        if d.ntp.systemTime.registered then d.timeZoneChanged ++ [env.steadyTime]
        else d.timeZoneChanged })

/-- The methods that read a clock. -/
def getTime (inUnits : Timespec → ℤ) (reading : Option Timespec) : StateM Device (Int32 × Int64) :=
  match reading with
  | some tv => pure (errOk, Int64.ofInt (inUnits tv))
  | none => pure (TimeError.dealFailed.code offset, 0)

/-- A reading in milliseconds. -/
def Timespec.millis (tv : Timespec) : ℤ := tv.tvSec * 1000 + tv.tvNsec.tdiv 1000000

/-- A reading in nanoseconds. -/
def Timespec.nanos (tv : Timespec) : ℤ := tv.tvSec * 1000000000 + tv.tvNsec

/-- `TimeService::GetThreadTimeMs` and `TimeService::GetThreadTimeNs`. -/
def getThreadTime (inUnits : Timespec → ℤ) (env : CallEnv) : StateM Device (Int32 × Int64) :=
  if !env.pthreadClock then pure (TimeError.parametersInvalid.code offset, 0)
  else getTime offset inUnits (env.clockGettime .threadCputime)

/-- A call on `timerManagerHandler_`. -/
def Device.onTimers {α : Type} (call : StateM (TimerTables Unit) α) : StateM Device α := fun d =>
  let result := call.run ⟨∅, d.timerManagerHandler⟩
  (result.1, { d with timerManagerHandler := result.2.timerManagerHandler })

/-- A proxy request. -/
def Device.onProxies (env : CallEnv) (op : ProxyOp) : StateM Device Bool := fun d =>
  let result := (proxyRequest offset (env.kit.getTokenTypeFlag env.callerToken) env.timer.created
    op).run ⟨d.timerManagerHandler, d.performed⟩
  (result.1, { d with
    timerManagerHandler := result.2.timerManagerHandler
    performed := result.2.performed })

/-- A call of `NtpUpdateTime` that starts no call of `SetSystemTime`. -/
def Device.withNtp (d : Device) (ntp : NtpUpdateTime) : Device := { d with ntp := ntp }

/-- A call of `NtpUpdateTime` under a token; the calls of `SetSystemTime` that it leaves waiting go
    on under the same token. -/
def Device.onNtp (d : Device) (token : UInt32) (ntp : NtpUpdateTime) : Device :=
  { d with
    ntp := ntp
    waitingTokens := d.waitingTokens
      ++ List.replicate (ntp.waiting.length - d.ntp.waiting.length) token }

/-- `TimeService`, for a request. -/
def deviceService (env : CallEnv) : ITimeService (StateM Device) where
  setTime := Device.setTime offset env
  setTimeZone := Device.setTimeZone json offset env
  getTimeZone := fun d => ((errOk, d.zone.curTimezoneId), d)
  getWallTimeMs := getTime offset Timespec.millis (env.clockGettime .realtime)
  getWallTimeNs := getTime offset Timespec.nanos (env.clockGettime .realtime)
  getBootTimeMs := getTime offset Timespec.millis (env.clockGettime .bootTime)
  getBootTimeNs := getTime offset Timespec.nanos (env.clockGettime .bootTime)
  getMonotonicTimeMs := getTime offset Timespec.millis (env.clockGettime .monotonic)
  getMonotonicTimeNs := getTime offset Timespec.nanos (env.clockGettime .monotonic)
  getThreadTimeMs := getThreadTime offset Timespec.millis env
  getThreadTimeNs := getThreadTime offset Timespec.nanos env
  createTimer type repeats interval obj :=
    Device.onTimers (createTimer env.timer type repeats interval obj)
  startTimer timerId triggerTimes :=
    Device.onTimers (startTimer env.timer.created env.isSystemUid env.clock timerId triggerTimes)
  stopTimer timerId := Device.onTimers (stopTimer env.timer.created env.clocks timerId)
  destroyTimer timerId := Device.onTimers (destroyTimer env.timer.created env.clocks timerId)
  networkTimeStatusOn := fun d =>
    ((), d.onNtp env.callerToken (d.ntp.updateStatusOn env.bootTimeNano env.write))
  networkTimeStatusOff := fun d => ((), d.onNtp env.callerToken (d.ntp.updateStatusOff env.write))
  proxyTimer uid isProxy needRetrigger :=
    Device.onProxies offset env (.proxyTimer uid.toInt isProxy needRetrigger)
  resetAllProxy := Device.onProxies offset env .resetAllProxy

/-! ### Runs -/

/-- The actions of the thread of the timers. -/
def Action.ofLooper : Action → Bool
  | .wake _ _ | .timeChange _ | .pass _ | .deliver | .reschedule | .advance _ => true
  | _ => false

/-- What happens to the service.  A timer expires on the service's own thread; a network callback
    comes from another process. -/
inductive DeviceEvent
  | request (env : CallEnv) (code : UInt32) (data reply : MessageParcel)
  | refreshNetworkTimeByTimer (token : UInt32) (bootTimeNano : UInt64) (write : FileWrite)
  | netCapabilitiesChange (token : UInt32) (internet : Bool) (bootTimeNano : UInt64)
  | updateNITZSetTime (bootTimeNano : UInt64)
  | finish (place : ℕ) (env : SettingEnv) (refresh : NtpRefresh) (write : FileWrite)
  | looper (action : Action)

/-- The waiting call at a place goes on, under its token. -/
def Device.finish (d : Device) (place : ℕ) (env : SettingEnv) (refresh : NtpRefresh)
    (write : FileWrite) : Device :=
  match d.waitingTokens[place]? with
  | none => d
  | some token =>
    { d with
      ntp := (d.ntp.step (.finish place refresh d.zone.curTimezoneId (env.setTimeEnv token)
        write)).getD d.ntp
      waitingTokens := d.waitingTokens.eraseIdx place }

variable (ipcObjectStub : RemoteStub (StateM Device))

/-- One step.  What cannot happen leaves the service as it is. -/
def Device.step (d : Device) : DeviceEvent → Device
  | .request env code data reply =>
    after (TimeServiceStub.onRemoteRequest (deviceService json offset env) offset ipcObjectStub code
      data reply) d
  | .refreshNetworkTimeByTimer token bootTimeNano write =>
    d.onNtp token (d.ntp.refreshNetworkTimeByTimer bootTimeNano write)
  | .netCapabilitiesChange token internet bootTimeNano =>
    d.onNtp token (d.ntp.netCapabilitiesChange internet bootTimeNano)
  | .updateNITZSetTime bootTimeNano => d.withNtp (d.ntp.updateNITZSetTime bootTimeNano)
  | .finish place env refresh write => d.finish place env refresh write
  | .looper action =>
    if action.ofLooper then
      { d with timerManagerHandler := d.timerManagerHandler.map fun manager =>
          (manager.step action).getD manager }
    else d

/-! ### The clock under the calls of `NtpUpdateTime` -/

/-- Without permission `SetTime` does nothing. -/
theorem SystemTime.setTime_denied (s : SystemTime) (time : ℤ) {env : SetTimeEnv}
    (h : env.hasPerm = false) : (s.setTime time env).2 = s := by
  unfold SystemTime.setTime
  rw [if_pos (by simp [h])]

section
variable (s : NtpUpdateTime)

@[simp] theorem NtpUpdateTime.afterSetSystemTime_systemTime (caller : SetSystemTimeCaller)
    (write : FileWrite) : (s.afterSetSystemTime caller write).systemTime = s.systemTime := by
  cases caller <;> simp [NtpUpdateTime.afterSetSystemTime]

@[simp] theorem NtpUpdateTime.startSetSystemTime_systemTime (caller : SetSystemTimeCaller)
    (bootTimeNano : UInt64) (write : FileWrite) :
    (s.startSetSystemTime caller bootTimeNano write).systemTime = s.systemTime := by
  unfold NtpUpdateTime.startSetSystemTime
  split
  · simp
  · rfl

@[simp] theorem NtpUpdateTime.updateStatusOn_systemTime (bootTimeNano : UInt64)
    (write : FileWrite) : (s.updateStatusOn bootTimeNano write).systemTime = s.systemTime := by
  unfold NtpUpdateTime.updateStatusOn
  split
  · rfl
  · simp

@[simp] theorem NtpUpdateTime.updateStatusOff_systemTime (write : FileWrite) :
    (s.updateStatusOff write).systemTime = s.systemTime := by
  simp [NtpUpdateTime.updateStatusOff]

@[simp] theorem NtpUpdateTime.refreshNetworkTimeByTimer_systemTime (bootTimeNano : UInt64)
    (write : FileWrite) :
    (s.refreshNetworkTimeByTimer bootTimeNano write).systemTime = s.systemTime := by
  unfold NtpUpdateTime.refreshNetworkTimeByTimer
  split
  · rfl
  · simp

@[simp] theorem NtpUpdateTime.netCapabilitiesChange_systemTime (internet : Bool)
    (bootTimeNano : UInt64) :
    (s.netCapabilitiesChange internet bootTimeNano).systemTime = s.systemTime := by
  unfold NtpUpdateTime.netCapabilitiesChange
  split
  · simp
  · rfl

@[simp] theorem NtpUpdateTime.updateNITZSetTime_systemTime (bootTimeNano : UInt64) :
    (s.updateNITZSetTime bootTimeNano).systemTime = s.systemTime := by
  unfold NtpUpdateTime.updateNITZSetTime
  rfl

/-- The clock after a call that comes back from the server: it is left alone, or set by `SetTime`.
    -/
theorem NtpUpdateTime.finish_systemTime {s' : NtpUpdateTime} {place : ℕ} {refresh : NtpRefresh}
    {curTimezoneId : String} {env : SetTimeEnv} {write : FileWrite}
    (h : s.step (.finish place refresh curTimezoneId env write) = some s') :
    s'.systemTime = s.systemTime ∨
      ∃ time, s'.systemTime = (s.systemTime.setTime time env).2 := by
  obtain ⟨caller, -, rfl⟩ := Option.map_eq_some_iff.mp h
  unfold NtpUpdateTime.finishSetSystemTime
  rw [NtpUpdateTime.afterSetSystemTime_systemTime]
  cases (refreshSystemTime s.mTimeResult refresh curTimezoneId).2 with
  | none => exact .inl rfl
  | some time => exact .inr ⟨time, rfl⟩

end

/-! ### What a request does -/

/-- What a request of an environment can do to the service. -/
inductive DeviceEffect (env : CallEnv) : (Device → Device) → Prop
  | timers (handler : Device → Option System)
      (hmanager : ∀ d, d.timerManagerHandler.isSome → (handler d).isSome) :
      DeviceEffect env fun d => { d with timerManagerHandler := handler d }
  | setTime (time : Int64) : DeviceEffect env fun d => ((Device.setTime offset env time).run d).2
  | setTimeZone (timeZoneId : String) :
      DeviceEffect env fun d => ((Device.setTimeZone json offset env timeZoneId).run d).2
  | ntp (call : NtpUpdateTime → NtpUpdateTime)
      (hclock : ∀ s, (call s).systemTime = s.systemTime) :
      DeviceEffect env fun d => d.onNtp env.callerToken (call d.ntp)
  | proxies (op : ProxyOp) : DeviceEffect env fun d => ((Device.onProxies offset env op).run d).2

/-- What the platform's stub can do: to dump the timers it creates a manager if there is none. -/
def Dumps (f : Device → Device) : Prop :=
  ∃ created : Option ℤ, f = fun d => { d with
    timerManagerHandler := d.timerManagerHandler.orElse fun _ => created.map System.init }

section
variable {json offset} {env : CallEnv}

/-- A manager that is there stays. -/
theorem withTimerManager_isSome {β : Type} (created : Option ℤ) (failed : β)
    (call : System → β × System) {t : TimerTables Unit} (h : t.timerManagerHandler.isSome) :
    ((withTimerManager created failed call).run t).2.timerManagerHandler.isSome := by
  rcases withTimerManager_cases created failed call t with ⟨hno, _⟩ | ⟨_, manager, _, hrun⟩
  · exact absurd (.inl h) hno
  · rw [hrun]
    rfl

theorem DeviceEffect.onTimers {α : Type} {call : StateM (TimerTables Unit) α}
    (h : ∀ t, t.timerManagerHandler.isSome → (call.run t).2.timerManagerHandler.isSome) :
    DeviceEffect json offset env fun d => ((Device.onTimers call).run d).2 :=
  .timers (fun d => (call.run ⟨∅, d.timerManagerHandler⟩).2.timerManagerHandler) fun _ hd => h _ hd

/-- The getters do nothing to the service. -/
theorem DeviceEffect.idle : DeviceEffect json offset env id :=
  .timers Device.timerManagerHandler fun _ h => h

theorem getTime_effect (inUnits : Timespec → ℤ) (reading : Option Timespec) :
    DeviceEffect json offset env fun d => ((getTime offset inUnits reading).run d).2 := by
  cases reading with
  | none => exact .idle
  | some tv => exact .idle

theorem getThreadTime_effect (inUnits : Timespec → ℤ) :
    DeviceEffect json offset env fun d => ((getThreadTime offset inUnits env).run d).2 := by
  unfold getThreadTime
  split
  · exact .idle
  · exact getTime_effect inUnits _

theorem createTimer_isSome (type : Int32) (repeats : Bool) (interval : UInt64)
    (obj : RemoteObject) {t : TimerTables Unit} (h : t.timerManagerHandler.isSome) :
    ((createTimer env.timer type repeats interval obj).run t).2.timerManagerHandler.isSome := by
  unfold createTimer
  split
  · exact h
  · dsimp only
    split
    · exact h
    · exact withTimerManager_isSome _ _ _ h

/-- **What a call can do.** -/
theorem deviceService_effect (call : ServiceCall) :
    DeviceEffect json offset env ((deviceService json offset env).effect call) := by
  cases call with
  | setTime time => exact .setTime time
  | setTimeZone timeZoneId => exact .setTimeZone timeZoneId
  | getTimeZone => exact .idle
  | getWallTimeMs => exact getTime_effect _ _
  | getWallTimeNs => exact getTime_effect _ _
  | getBootTimeMs => exact getTime_effect _ _
  | getBootTimeNs => exact getTime_effect _ _
  | getMonotonicTimeMs => exact getTime_effect _ _
  | getMonotonicTimeNs => exact getTime_effect _ _
  | getThreadTimeMs => exact getThreadTime_effect _
  | getThreadTimeNs => exact getThreadTime_effect _
  | createTimer type repeats interval obj =>
    exact .onTimers fun _ h => createTimer_isSome type repeats interval obj h
  | startTimer timerId triggerTimes => exact .onTimers fun _ h => withTimerManager_isSome _ _ _ h
  | stopTimer timerId => exact .onTimers fun _ h => withTimerManager_isSome _ _ _ h
  | destroyTimer timerId => exact .onTimers fun _ h => withTimerManager_isSome _ _ _ h
  | networkTimeStatusOn => exact .ntp _ fun s => s.updateStatusOn_systemTime _ _
  | networkTimeStatusOff => exact .ntp _ fun s => s.updateStatusOff_systemTime _
  | proxyTimer uid isProxy needRetrigger =>
    exact .proxies (.proxyTimer uid.toInt isProxy needRetrigger)
  | resetAllProxy => exact .proxies .resetAllProxy

/-- `SetTimeZone` is refused, or it changes the zone and nothing else. -/
theorem setTimeZone_cases (env : CallEnv) (timeZoneId : String) (d : Device) :
    ((Device.setTimeZone json offset env timeZoneId).run d).2 = d ∨
      env.kit.checkCallingPermission env.callerToken setTimezonePermName = true ∧
      ∃ zone timeZoneChanged, ((Device.setTimeZone json offset env timeZoneId).run d).2
        = { d with zone := zone, timeZoneChanged := timeZoneChanged } := by
  show (Device.setTimeZone json offset env timeZoneId d).2 = d ∨ _ ∧ ∃ zone timeZoneChanged,
    (Device.setTimeZone json offset env timeZoneId d).2 = _
  unfold Device.setTimeZone
  cases hperm : env.kit.checkCallingPermission env.callerToken setTimezonePermName with
  | false => exact .inl rfl
  | true =>
    right
    refine ⟨rfl, ?_⟩
    simp only [Bool.not_true, Bool.false_eq_true, if_false]
    split
    · exact ⟨_, d.timeZoneChanged, rfl⟩
    · exact ⟨_, _, rfl⟩

/-- A proxy request of a caller that is not native does nothing. -/
theorem onProxies_denied {d : Device} (op : ProxyOp)
    (h : checkProxyCallingPermission (env.kit.getTokenTypeFlag env.callerToken) = false) :
    ((Device.onProxies offset env op).run d).2 = d := by
  unfold Device.onProxies proxyRequest
  simp only [h]
  rfl

/-- With a manager there, that of a native caller is performed. -/
theorem onProxies_performed {d : Device} (op : ProxyOp)
    (h : checkProxyCallingPermission (env.kit.getTokenTypeFlag env.callerToken) = true)
    (hmanager : d.timerManagerHandler.isSome) :
    ((Device.onProxies offset env op).run d).2.performed = d.performed ++ [op] ∧
      ((Device.onProxies offset env op).run d).2.timerManagerHandler.isSome := by
  obtain ⟨manager, hmanager⟩ := Option.isSome_iff_exists.mp hmanager
  unfold Device.onProxies proxyRequest
  simp only [h]
  show (performProxy _ _ ⟨d.timerManagerHandler, d.performed⟩).2.performed = _ ∧
    (performProxy _ _ ⟨d.timerManagerHandler, d.performed⟩).2.timerManagerHandler.isSome = _
  rw [hmanager]
  exact ⟨rfl, rfl⟩

variable {ipcObjectStub : RemoteStub (StateM Device)}

/-- A request does one of these things at most. -/
theorem request_atMostOne
    (hstub : ∀ code data reply, AtMostOne Dumps (ipcObjectStub code data reply)) (code : UInt32)
    (data reply : MessageParcel) :
    AtMostOne (DeviceEffect json offset env)
      (TimeServiceStub.onRemoteRequest (deviceService json offset env) offset ipcObjectStub code
        data reply) := by
  apply TimeServiceStub.onRemoteRequest_atMostOne offset deviceService_effect
  intro code data reply
  apply (hstub code data reply).mono
  rintro _ ⟨created, rfl⟩
  apply DeviceEffect.timers
  intro d h
  obtain ⟨manager, hmanager⟩ := Option.isSome_iff_exists.mp h
  rw [hmanager]
  rfl

end

/-! ### The clock -/

/-- The events whose calls are all made by tokens of `T`. -/
def DeviceEvent.ActsFor (T : UInt32 → Prop) : DeviceEvent → Prop
  | .request env _ _ _ => T env.callerToken
  | .refreshNetworkTimeByTimer token _ _ => T token
  | .netCapabilitiesChange token _ _ => T token
  | _ => True

/-- No token of `T` has the permission when it is asked for. -/
def DeviceEvent.Denies (T : UInt32 → Prop) (permissionName : String) : DeviceEvent → Prop
  | .request env _ _ _ =>
    ∀ token, T token → env.kit.checkCallingPermission token permissionName = false
  | .finish _ env _ _ =>
    ∀ token, T token → env.kit.checkCallingPermission token permissionName = false
  | _ => True

/-- The clock shows what it has shown, and the waiting calls are all made by tokens of `T`. -/
structure ClockLeft (T : UInt32 → Prop) (systemTime : SystemTime) (d : Device) : Prop where
  clock : d.ntp.systemTime = systemTime
  tokens : ∀ token ∈ d.waitingTokens, T token

section
variable {T : UInt32 → Prop} {systemTime : SystemTime} {d : Device}

theorem ClockLeft.withNtp (h : ClockLeft T systemTime d) {ntp : NtpUpdateTime}
    (hntp : ntp.systemTime = d.ntp.systemTime) : ClockLeft T systemTime (d.withNtp ntp) :=
  ⟨hntp.trans h.clock, h.tokens⟩

/-- A call of `NtpUpdateTime` that leaves the clock alone, by a token of `T`. -/
theorem ClockLeft.onNtp (h : ClockLeft T systemTime d) {token : UInt32} (htoken : T token)
    {ntp : NtpUpdateTime} (hntp : ntp.systemTime = d.ntp.systemTime) :
    ClockLeft T systemTime (d.onNtp token ntp) where
  clock := hntp.trans h.clock
  tokens := by
    intro waiting hmem
    rcases List.mem_append.mp hmem with hmem | hmem
    · exact h.tokens waiting hmem
    · rw [List.eq_of_mem_replicate hmem]
      exact htoken

variable {json offset}

/-- No call under a token without the permission sets the clock. -/
theorem ClockLeft.effect {env : CallEnv} (htoken : T env.callerToken)
    (hdenied : env.kit.checkCallingPermission env.callerToken setTimePermName = false)
    {f : Device → Device} (hf : DeviceEffect json offset env f) (h : ClockLeft T systemTime d) :
    ClockLeft T systemTime (f d) := by
  cases hf with
  | timers handler hmanager => exact ⟨h.clock, h.tokens⟩
  | setTime time =>
    refine ⟨?_, h.tokens⟩
    show (d.ntp.systemTime.setTime time.toInt (env.setTimeEnv env.callerToken)).2 = systemTime
    rw [SystemTime.setTime_denied _ _ hdenied]
    exact h.clock
  | setTimeZone timeZoneId =>
    show ClockLeft T systemTime ((Device.setTimeZone json offset env timeZoneId).run d).2
    rcases setTimeZone_cases env timeZoneId d with hsame | ⟨-, _, _, hset⟩
    · rw [hsame]
      exact h
    · rw [hset]
      exact ⟨h.clock, h.tokens⟩
  | ntp call hclock => exact h.onNtp htoken (hclock d.ntp)
  | proxies op => exact ⟨h.clock, h.tokens⟩

/-- A waiting call that goes on under a token without the permission does not set the clock. -/
theorem ClockLeft.finish {env : SettingEnv}
    (hdenied : ∀ token, T token → env.kit.checkCallingPermission token setTimePermName = false)
    (place : ℕ) (refresh : NtpRefresh) (write : FileWrite) (h : ClockLeft T systemTime d) :
    ClockLeft T systemTime (d.finish place env refresh write) := by
  unfold Device.finish
  cases htoken : d.waitingTokens[place]? with
  | none => exact h
  | some token =>
    have hT : T token := h.tokens token (List.mem_of_getElem? htoken)
    refine ⟨?_, fun waiting hmem => h.tokens waiting (List.mem_of_mem_eraseIdx hmem)⟩
    show ((d.ntp.step _).getD d.ntp).systemTime = systemTime
    cases hstep : d.ntp.step (.finish place refresh d.zone.curTimezoneId (env.setTimeEnv token)
        write) with
    | none => exact h.clock
    | some ntp =>
      show ntp.systemTime = systemTime
      rcases d.ntp.finish_systemTime hstep with hsame | ⟨time, hset⟩
      · rw [hsame]
        exact h.clock
      · rw [hset, SystemTime.setTime_denied _ _ (hdenied token hT)]
        exact h.clock

variable {ipcObjectStub : RemoteStub (StateM Device)}

/-- No step of tokens without the permission sets the clock. -/
theorem ClockLeft.step
    (hstub : ∀ code data reply, AtMostOne Dumps (ipcObjectStub code data reply))
    {e : DeviceEvent} (hacts : e.ActsFor T) (hdenied : e.Denies T setTimePermName)
    (h : ClockLeft T systemTime d) :
    ClockLeft T systemTime (d.step json offset ipcObjectStub e) := by
  cases e with
  | request env code data reply =>
    have hrequest : AtMostOne
        (fun f => ∀ s, ClockLeft T systemTime s → ClockLeft T systemTime (f s))
        (TimeServiceStub.onRemoteRequest (deviceService json offset env) offset ipcObjectStub code
          data reply) :=
      (request_atMostOne hstub code data reply).mono fun _ hf _ hs =>
        hs.effect hacts (hdenied _ hacts) hf
    exact hrequest.keeps h
  | refreshNetworkTimeByTimer token bootTimeNano write =>
    exact h.onNtp hacts (d.ntp.refreshNetworkTimeByTimer_systemTime _ _)
  | netCapabilitiesChange token internet bootTimeNano =>
    exact h.onNtp hacts (d.ntp.netCapabilitiesChange_systemTime _ _)
  | updateNITZSetTime bootTimeNano =>
    exact h.withNtp (d.ntp.updateNITZSetTime_systemTime _)
  | finish place env refresh write => exact h.finish hdenied place refresh write
  | looper action =>
    show ClockLeft T systemTime (if action.ofLooper then _ else d)
    split
    · exact ⟨h.clock, h.tokens⟩
    · exact h

end

variable {json offset} {ipcObjectStub : RemoteStub (StateM Device)}

/-- **The clock.** In every run all of whose calls are made under tokens without the permission to
    set the time, those waiting at the start included, the clock is never set and no time event is
    published: not by a request, whatever its code and its parcels, not by switching automatic time
    on, not by the timer and not by the network. -/
theorem clock_needs_permission
    (hstub : ∀ code data reply, AtMostOne Dumps (ipcObjectStub code data reply))
    {T : UInt32 → Prop} {d : Device} (hwaiting : ∀ token ∈ d.waitingTokens, T token)
    {events : List DeviceEvent}
    (hevents : ∀ e ∈ events, e.ActsFor T ∧ e.Denies T setTimePermName) :
    (events.foldl (Device.step json offset ipcObjectStub) d).ntp.systemTime = d.ntp.systemTime := by
  have hrun : ClockLeft T d.ntp.systemTime
      (events.foldl (Device.step json offset ipcObjectStub) d) :=
    List.foldlRecOn events _ ⟨rfl, hwaiting⟩ fun _ hd e he =>
      hd.step hstub (hevents e he).1 (hevents e he).2
  exact hrun.clock

/-- A stub of the platform that knows no code. -/
def unknownCode : RemoteStub (StateM Device) := fun _ _ reply => pure (-1, reply)

/-- The token 1 is native and may do everything, the others are of applications and may do
    nothing. -/
def oneAdministrator : AccessTokenKit where
  getTokenTypeFlag token := if token = 1 then .native else .hap
  verifyNativeToken _ _ := true
  verifyAccessToken _ _ := false

/-- A kernel and an RTC that serve every call. -/
def servingSystem : SettingEnv := ⟨oneAdministrator, 0, ⟨0, 4, true, 0⟩, 0⟩

/-- A request of a caller that meets nothing but success. -/
def servedCall (callerToken : UInt32) : CallEnv where
  toSettingEnv := servingSystem
  callerToken := callerToken
  clockGettime _ := some ⟨0, 0⟩
  pthreadClock := true
  setenvOk := true
  save := .written 100
  bootTimeNano := 0
  write := .complete
  timer := ⟨10000, true, some 0, ⟨5, by decide⟩⟩
  isSystemUid _ := false
  clock := ⟨0, 0⟩
  clocks _ := ⟨0, 0⟩

/-- A request for a method, with its arguments. -/
def requestOf (callerToken : UInt32) (code : TimeServiceCode) (arguments : List ParcelItem) :
    DeviceEvent :=
  .request (servedCall callerToken) code.toUInt32
    ⟨⟨.interfaceToken, timeServiceDescriptor⟩ :: arguments, none, .fails⟩ (.new none .fails)

/-- The service after its start, in Shanghai. -/
def startedDevice : Device where
  ntp := .start ⟨"ntp.aliyun.com", "OFF", invalidMillis⟩ none ⟨⟨0, 0⟩, true, []⟩
  waitingTokens := []
  zone := ⟨"Asia/Shanghai", some "UTC-8", none⟩
  timeZoneChanged := []
  timerManagerHandler := some (.init 0)
  performed := []

/-- An application sets the time and switches automatic time on: the server answers, and the clock
    stands where it stood. -/
theorem clock_needs_permission_application :
    ([requestOf 7 .setTime [⟨.int64, 1000⟩], requestOf 7 .networkTimeOn [],
        .finish 0 servingSystem refreshAt1683325312 .complete].foldl
      (Device.step timezoneJson 0 unknownCode) startedDevice).ntp.systemTime
        = ⟨⟨0, 0⟩, true, []⟩ :=
  clock_needs_permission (T := fun token => token = 7) (fun _ _ _ => (silent_pure _).atMostOne)
    (d := startedDevice) (fun _ h => by cases h) (by
      intro e he
      simp only [List.mem_cons, List.not_mem_nil, or_false] at he
      rcases he with rfl | rfl | rfl
      · exact ⟨rfl, fun _ h => by rw [h]; rfl⟩
      · exact ⟨rfl, fun _ h => by rw [h]; rfl⟩
      · exact ⟨trivial, fun _ h => by rw [h]; rfl⟩)

/-! ### The timezone and the proxies -/

/-- The timezone as a caller can see it, and whether its changes are published. -/
def Device.zoneView (d : Device) : TimeZoneInfo × List ℤ × Bool :=
  (d.zone, d.timeZoneChanged, d.ntp.systemTime.registered)

/-- A request of a caller who has the permission. -/
def DeviceEvent.may (permissionName : String) : DeviceEvent → Bool
  | .request env _ _ _ => env.kit.checkCallingPermission env.callerToken permissionName
  | _ => false

/-- A request of a native caller. -/
def DeviceEvent.native : DeviceEvent → Bool
  | .request env _ _ _ => checkProxyCallingPermission (env.kit.getTokenTypeFlag env.callerToken)
  | _ => false

@[simp] theorem SystemTime.setTime_registered (s : SystemTime) (time : ℤ) (env : SetTimeEnv) :
    (s.setTime time env).2.registered = s.registered := by
  have hpublish : ∀ (t : SystemTime) (eventTime : ℤ),
      (t.publishTimeChangeEvents eventTime).registered = t.registered := by
    intro t eventTime
    unfold SystemTime.publishTimeChangeEvents
    split <;> rfl
  rcases s.setTime_outcome time env with ⟨_, e, heq⟩ | ⟨_, _, heq⟩ | ⟨_, _, heq⟩
  · rw [heq]
  · rw [heq]
    rfl
  · rw [heq, hpublish]
    rfl

theorem withNtp_zoneView {d : Device} {ntp : NtpUpdateTime}
    (h : ntp.systemTime = d.ntp.systemTime) : (d.withNtp ntp).zoneView = d.zoneView := by
  unfold Device.zoneView Device.withNtp
  rw [h]

theorem onNtp_zoneView {d : Device} (token : UInt32) {ntp : NtpUpdateTime}
    (h : ntp.systemTime = d.ntp.systemTime) : (d.onNtp token ntp).zoneView = d.zoneView :=
  withNtp_zoneView h

/-- What `SetTimeZone` with the permission makes of what is seen of the timezone. -/
def setZoneView (json : JsonCodec) (env : CallEnv) (timeZoneId : String)
    (view : TimeZoneInfo × List ℤ × Bool) : TimeZoneInfo × List ℤ × Bool :=
  let result := view.1.setTimezone json timeZoneId env.setenvOk env.save
  (result.2, if result.1 && view.2.2 then view.2.1 ++ [env.steadyTime] else view.2.1, view.2.2)

section
variable {env : CallEnv} {f : Device → Device}

/-- Only `SetTimeZone` with the permission changes what is seen of the timezone, and what it makes
    of it depends on nothing else. -/
theorem DeviceEffect.zoneView_cases (hf : DeviceEffect json offset env f) :
    (∀ d, (f d).zoneView = d.zoneView) ∨
      env.kit.checkCallingPermission env.callerToken setTimezonePermName = true ∧
      ∃ timeZoneId, ∀ d, (f d).zoneView = setZoneView json env timeZoneId d.zoneView := by
  cases hf with
  | timers handler hmanager => exact .inl fun _ => rfl
  | setTime time =>
    left
    intro d
    show (d.zone, d.timeZoneChanged, (d.ntp.systemTime.setTime _ _).2.registered) = _
    rw [SystemTime.setTime_registered]
    rfl
  | setTimeZone timeZoneId =>
    cases hperm : env.kit.checkCallingPermission env.callerToken setTimezonePermName with
    | false =>
      left
      intro d
      show ((Device.setTimeZone json offset env timeZoneId).run d).2.zoneView = _
      rcases setTimeZone_cases env timeZoneId d with hsame | ⟨hgranted, -⟩
      · rw [hsame]
      · rw [hperm] at hgranted
        cases hgranted
    | true =>
      refine .inr ⟨rfl, timeZoneId, fun d => ?_⟩
      show (Device.setTimeZone json offset env timeZoneId d).2.zoneView = _
      unfold Device.setTimeZone setZoneView Device.zoneView
      simp only [hperm, Bool.not_true, Bool.false_eq_true, if_false]
      cases (d.zone.setTimezone json timeZoneId env.setenvOk env.save).1 with
      | false => rfl
      | true => rfl
  | ntp call hclock => exact .inl fun d => onNtp_zoneView env.callerToken (hclock d.ntp)
  | proxies op => exact .inl fun _ => rfl

/-- Only a proxy request of a native caller is performed, and a manager that is there stays. -/
theorem DeviceEffect.performed_cases (hf : DeviceEffect json offset env f) :
    (∀ d, (f d).performed = d.performed ∧
        (d.timerManagerHandler.isSome → (f d).timerManagerHandler.isSome)) ∨
      checkProxyCallingPermission (env.kit.getTokenTypeFlag env.callerToken) = true ∧
      ∃ op, ∀ d, d.timerManagerHandler.isSome →
        (f d).performed = d.performed ++ [op] ∧ (f d).timerManagerHandler.isSome := by
  cases hf with
  | timers handler hmanager => exact .inl fun d => ⟨rfl, hmanager d⟩
  | setTime time => exact .inl fun _ => ⟨rfl, id⟩
  | setTimeZone timeZoneId =>
    left
    intro d
    show ((Device.setTimeZone json offset env timeZoneId).run d).2.performed = _ ∧
      (_ → ((Device.setTimeZone json offset env timeZoneId).run d).2.timerManagerHandler.isSome)
    rcases setTimeZone_cases env timeZoneId d with hsame | ⟨-, _, _, hset⟩
    · rw [hsame]
      exact ⟨rfl, id⟩
    · rw [hset]
      exact ⟨rfl, id⟩
  | ntp call hclock => exact .inl fun _ => ⟨rfl, id⟩
  | proxies op =>
    cases hnative : checkProxyCallingPermission (env.kit.getTokenTypeFlag env.callerToken) with
    | false =>
      left
      intro d
      show ((Device.onProxies offset env op).run d).2.performed = _ ∧
        (_ → ((Device.onProxies offset env op).run d).2.timerManagerHandler.isSome)
      rw [onProxies_denied op hnative]
      exact ⟨rfl, id⟩
    | true => exact .inr ⟨rfl, op, fun _ hmanager => onProxies_performed op hnative hmanager⟩

end

/-- Neither the timezone nor the proxies are touched, and a manager that is there stays. -/
structure Internal (d d' : Device) : Prop where
  zoneView : d'.zoneView = d.zoneView
  performed : d'.performed = d.performed
  manager : d.timerManagerHandler.isSome → d'.timerManagerHandler.isSome

theorem internal_withNtp {d : Device} {ntp : NtpUpdateTime}
    (h : ntp.systemTime = d.ntp.systemTime) : Internal d (d.withNtp ntp) :=
  ⟨withNtp_zoneView h, rfl, id⟩

theorem internal_onNtp {d : Device} (token : UInt32) {ntp : NtpUpdateTime}
    (h : ntp.systemTime = d.ntp.systemTime) : Internal d (d.onNtp token ntp) :=
  ⟨withNtp_zoneView h, rfl, id⟩

/-- A call that comes back from the server may set the clock, but nothing else that is guarded. -/
theorem internal_finish (d : Device) (place : ℕ) (env : SettingEnv) (refresh : NtpRefresh)
    (write : FileWrite) : Internal d (d.finish place env refresh write) := by
  unfold Device.finish
  cases d.waitingTokens[place]? with
  | none => exact ⟨rfl, rfl, id⟩
  | some token =>
    refine ⟨?_, rfl, id⟩
    show (d.zone, d.timeZoneChanged, ((d.ntp.step _).getD d.ntp).systemTime.registered) = _
    cases hstep : d.ntp.step (.finish place refresh d.zone.curTimezoneId (env.setTimeEnv token)
        write) with
    | none => rfl
    | some ntp =>
      show (d.zone, d.timeZoneChanged, ntp.systemTime.registered) = _
      rcases d.ntp.finish_systemTime hstep with hsame | ⟨time, hset⟩
      · rw [hsame]
        rfl
      · rw [hset, SystemTime.setTime_registered]
        rfl

/-- So it is with everything that is no request. -/
theorem internal_step (d : Device) {e : DeviceEvent}
    (he : ∀ env code data reply, e ≠ .request env code data reply) :
    Internal d (d.step json offset ipcObjectStub e) := by
  cases e with
  | request env code data reply => exact absurd rfl (he env code data reply)
  | refreshNetworkTimeByTimer token bootTimeNano write =>
    exact internal_onNtp token (d.ntp.refreshNetworkTimeByTimer_systemTime _ _)
  | netCapabilitiesChange token internet bootTimeNano =>
    exact internal_onNtp token (d.ntp.netCapabilitiesChange_systemTime _ _)
  | updateNITZSetTime bootTimeNano =>
    exact internal_withNtp (d.ntp.updateNITZSetTime_systemTime _)
  | finish place env refresh write => exact internal_finish d place env refresh write
  | looper action =>
    show Internal d (if action.ofLooper then _ else d)
    split
    · exact ⟨rfl, rfl, fun h => by simpa using h⟩
    · exact ⟨rfl, rfl, id⟩

section
variable (hstub : ∀ code data reply, AtMostOne Dumps (ipcObjectStub code data reply))
  {env : CallEnv} (code : UInt32) (data reply : MessageParcel) (d : Device)
include hstub

/-- What every effect of a request keeps, the request keeps. -/
theorem request_keeps {Inv : Device → Prop}
    (hkeep : ∀ f, DeviceEffect json offset env f → ∀ t, Inv t → Inv (f t)) (h : Inv d) :
    Inv (d.step json offset ipcObjectStub (.request env code data reply)) :=
  AtMostOne.keeps ((request_atMostOne hstub code data reply).mono hkeep) h

theorem request_zoneView_denied
    (hdenied : env.kit.checkCallingPermission env.callerToken setTimezonePermName = false) :
    (d.step json offset ipcObjectStub (.request env code data reply)).zoneView = d.zoneView := by
  apply @request_keeps json offset ipcObjectStub hstub env code data reply d
    (fun t => t.zoneView = d.zoneView)
  · intro f hf t ht
    rcases hf.zoneView_cases with hsame | ⟨hperm, -⟩
    · rw [hsame t, ht]
    · rw [hdenied] at hperm
      cases hperm
  · rfl

theorem request_manager (h : d.timerManagerHandler.isSome) :
    (d.step json offset ipcObjectStub (.request env code data reply)).timerManagerHandler.isSome :=
      by
  apply @request_keeps json offset ipcObjectStub hstub env code data reply d
    (fun t => t.timerManagerHandler.isSome)
  · intro f hf t ht
    rcases hf.performed_cases with hsame | ⟨-, op, hop⟩
    · exact (hsame t).2 ht
    · exact (hop t ht).2
  · exact h

theorem request_performed_denied
    (hdenied : checkProxyCallingPermission (env.kit.getTokenTypeFlag env.callerToken) = false) :
    (d.step json offset ipcObjectStub (.request env code data reply)).performed = d.performed := by
  apply @request_keeps json offset ipcObjectStub hstub env code data reply d
    (fun t => t.performed = d.performed)
  · intro f hf t ht
    rcases hf.performed_cases with hsame | ⟨hnative, -⟩
    · rw [(hsame t).1, ht]
    · rw [hdenied] at hnative
      cases hnative
  · rfl

variable {d} {d' : Device}

theorem request_zoneView_congr (hview : d.zoneView = d'.zoneView) :
    (d.step json offset ipcObjectStub (.request env code data reply)).zoneView
      = (d'.step json offset ipcObjectStub (.request env code data reply)).zoneView := by
  apply @AtMostOne.respects _ _ _ _ (fun _ => True) _
    ((request_atMostOne hstub code data reply).mono ?_) _ _ trivial trivial hview
  intro f hf s t _ _ hst
  rcases hf.zoneView_cases with hsame | ⟨-, timeZoneId, hset⟩
  · rw [hsame s, hsame t, hst]
  · rw [hset s, hset t, hst]

theorem request_performed_congr (hd : d.timerManagerHandler.isSome)
    (hd' : d'.timerManagerHandler.isSome) (hview : d.performed = d'.performed) :
    (d.step json offset ipcObjectStub (.request env code data reply)).performed
      = (d'.step json offset ipcObjectStub (.request env code data reply)).performed := by
  apply @AtMostOne.respects _ _ _ _ (fun t : Device => t.timerManagerHandler.isSome) _
    ((request_atMostOne hstub code data reply).mono ?_) _ _ hd hd' hview
  intro f hf s t hs ht hst
  rcases hf.performed_cases with hsame | ⟨-, op, hop⟩
  · rw [(hsame s).1, (hsame t).1, hst]
  · rw [(hop s hs).1, (hop t ht).1, hst]

end

/-- **Noninterference.** The requests of callers without the permission, the network, the timers and
    automatic time can be left out of any run: the timezone, its file, its `TZ` and the events that
    announce it are what the requests of the callers with permission make of them.  The same is
    true of the proxy operations that are performed and the requests of native callers, when the
    manager of the timers is there. -/
theorem guarded_noninterference
    (hstub : ∀ code data reply, AtMostOne Dumps (ipcObjectStub code data reply)) (d : Device)
    (events : List DeviceEvent) :
    (events.foldl (Device.step json offset ipcObjectStub) d).zoneView
        = ((events.filter (·.may setTimezonePermName)).foldl
            (Device.step json offset ipcObjectStub) d).zoneView ∧
      (d.timerManagerHandler.isSome →
        (events.foldl (Device.step json offset ipcObjectStub) d).performed
          = ((events.filter (·.native)).foldl
              (Device.step json offset ipcObjectStub) d).performed) := by
  constructor
  · apply @Run.view_foldl_purge _ _ (Device.step json offset ipcObjectStub) _ _ (fun _ => True)
    · exact fun _ _ _ => trivial
    · intro t e _ hdenied
      cases e with
      | request env code data reply =>
        exact request_zoneView_denied hstub code data reply t hdenied
      | _ => exact (internal_step t fun _ _ _ _ h => by cases h).zoneView
    · intro t t' e _ _ hmay hview
      cases e with
      | request env code data reply => exact request_zoneView_congr hstub code data reply hview
      | _ => cases hmay
    · trivial
    · trivial
    · rfl
  · intro hmanager
    apply @Run.view_foldl_purge _ _ (Device.step json offset ipcObjectStub) _ _
      (fun t => t.timerManagerHandler.isSome)
    · intro t e ht
      cases e with
      | request env code data reply => exact request_manager hstub code data reply t ht
      | _ => exact (internal_step t fun _ _ _ _ h => by cases h).manager ht
    · intro t e _ hdenied
      cases e with
      | request env code data reply =>
        exact request_performed_denied hstub code data reply t hdenied
      | _ => exact (internal_step t fun _ _ _ _ h => by cases h).performed
    · intro t t' e ht ht' hnative hview
      cases e with
      | request env code data reply =>
        exact request_performed_congr hstub code data reply ht ht' hview
      | _ => cases hnative
    · exact hmanager
    · exact hmanager
    · rfl

/-- An application asks for Moscow and for a reset of the proxies, the administrator for Berlin and
    for a reset: both are what the administrator has asked for. -/
theorem guarded_noninterference_berlin :
    let events := [requestOf 7 .setTimeZone [⟨.string, "Europe/Moscow"⟩],
      requestOf 1 .setTimeZone [⟨.string, "Europe/Berlin"⟩], requestOf 7 .resetAllProxy [],
      requestOf 1 .resetAllProxy []]
    let granted := [requestOf 1 .setTimeZone [⟨.string, "Europe/Berlin"⟩],
      requestOf 1 .resetAllProxy []]
    (events.foldl (Device.step timezoneJson 0 unknownCode) startedDevice).zoneView
        = (granted.foldl (Device.step timezoneJson 0 unknownCode) startedDevice).zoneView ∧
      (events.foldl (Device.step timezoneJson 0 unknownCode) startedDevice).performed
        = (granted.foldl (Device.step timezoneJson 0 unknownCode) startedDevice).performed := by
  intro events granted
  have hmay : events.filter (·.may setTimezonePermName) = granted := rfl
  have hnative : events.filter (·.native) = granted := rfl
  constructor
  · rw [← hmay]
    exact (guarded_noninterference (fun _ _ _ => (silent_pure _).atMostOne) startedDevice events).1
  · rw [← hnative]
    exact (guarded_noninterference (fun _ _ _ => (silent_pure _).atMostOne) startedDevice
      events).2 rfl

end TimeService
