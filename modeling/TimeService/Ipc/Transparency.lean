import TimeService.Ipc.Proxy

namespace TimeService

/-!
# A call through proxy and stub is a direct call

Equations between computations of an arbitrary lawful monad: whatever the service does (with its
state, with exceptions, with a log of its calls), the call through the two sides does exactly that,
once, with the same arguments, and gives the same result.

* `ipc_transparent`: this holds of every method of `ITimeService` and of `ITimerCallback`.
-/

variable {m : Type → Type} [Monad m]

/-- The result of a method with an output parameter as its caller sees it: the output counts when
    the status is `ERR_OK`. -/
def observed {α : Type} (x : m (Int32 × α)) : OptionT m (Int32 × Option α) := do
  let (status, output) ← OptionT.lift x
  return (status, if status = errOk then some output else none)

/-- The proxy functions on a reliable line to a stub are the methods of the service. -/
structure IpcTransparent (svc : ITimeService m) (offset : Int32) (stub : RemoteStub m) : Prop where
  setTime : ∀ time, TimeServiceProxy.setTime .reliable stub offset time
    = OptionT.lift (svc.setTime time)
  setTimeZone : ∀ timezoneId, TimeServiceProxy.setTimeZone .reliable stub offset timezoneId
    = OptionT.lift (svc.setTimeZone timezoneId)
  getTimeZone : TimeServiceProxy.getTimeZone .reliable stub offset = observed svc.getTimeZone
  getWallTimeMs : TimeServiceProxy.getWallTimeMs .reliable stub offset
    = observed svc.getWallTimeMs
  getWallTimeNs : TimeServiceProxy.getWallTimeNs .reliable stub offset
    = observed svc.getWallTimeNs
  getBootTimeMs : TimeServiceProxy.getBootTimeMs .reliable stub offset
    = observed svc.getBootTimeMs
  getBootTimeNs : TimeServiceProxy.getBootTimeNs .reliable stub offset
    = observed svc.getBootTimeNs
  getMonotonicTimeMs : TimeServiceProxy.getMonotonicTimeMs .reliable stub offset
    = observed svc.getMonotonicTimeMs
  getMonotonicTimeNs : TimeServiceProxy.getMonotonicTimeNs .reliable stub offset
    = observed svc.getMonotonicTimeNs
  getThreadTimeMs : TimeServiceProxy.getThreadTimeMs .reliable stub offset
    = observed svc.getThreadTimeMs
  getThreadTimeNs : TimeServiceProxy.getThreadTimeNs .reliable stub offset
    = observed svc.getThreadTimeNs
  createTimer : ∀ type repeats interval (obj : ℕ),
    TimeServiceProxy.createTimer .reliable stub type repeats interval (some obj)
      = OptionT.lift (svc.createTimer type repeats interval (some obj))
  startTimer : ∀ timerId triggerTimes,
    TimeServiceProxy.startTimer .reliable stub timerId triggerTimes
      = OptionT.lift (svc.startTimer timerId triggerTimes)
  stopTimer : ∀ timerId, TimeServiceProxy.stopTimer .reliable stub timerId
    = OptionT.lift (svc.stopTimer timerId)
  destroyTimer : ∀ timerId, TimeServiceProxy.destroyTimer .reliable stub timerId
    = OptionT.lift (svc.destroyTimer timerId)
  networkTimeStatusOn : TimeServiceProxy.networkTimeStatusOn .reliable stub
    = OptionT.lift svc.networkTimeStatusOn
  networkTimeStatusOff : TimeServiceProxy.networkTimeStatusOff .reliable stub
    = OptionT.lift svc.networkTimeStatusOff
  proxyTimer : ∀ uid isProxy needRetrigger, uid ≠ 0 →
    TimeServiceProxy.proxyTimer .reliable stub uid isProxy needRetrigger
      = OptionT.lift (svc.proxyTimer uid isProxy needRetrigger)
  resetAllProxy : TimeServiceProxy.resetAllProxy .reliable stub = OptionT.lift svc.resetAllProxy

section
variable [LawfulMonad m] (svc : ITimeService m) (offset : Int32) (ipcObjectStub : RemoteStub m)

/-- A request with a registered code on a reliable line: its handler runs on its arguments. -/
theorem request_of_lookup {α : Type} {code : TimeServiceCode} {memberFunc : TimeServiceFunc m}
    (hfunc : (memberFuncMap svc offset).lookup code.toUInt32 = some memberFunc)
    (arguments : List ParcelItem) (writeError : α)
    (answer : Int32 → MessageParcel → OptionT m α) :
    IpcLine.reliable.request (TimeServiceStub.onRemoteRequest svc offset ipcObjectStub)
        timeServiceDescriptor code.toUInt32 arguments writeError answer
      = memberFunc ⟨arguments, none, .fails⟩ ⟨[], none, .fails⟩ >>= fun result =>
          answer result.1 result.2 := by
  rw [IpcLine.request_reliable, TimeServiceStub.onRemoteRequest_of_lookup svc offset ipcObjectStub
    hfunc]

/-- A method with an output parameter, whatever its type. -/
theorem outputRequest_reliable {code : TimeServiceCode} {type : ParcelType}
    {method : m (Int32 × type.Value)}
    (hfunc : (memberFuncMap svc offset).lookup code.toUInt32 = some (onGetOutput type method)) :
    outputRequest .reliable (TimeServiceStub.onRemoteRequest svc offset ipcObjectStub) offset code
        type
      = observed method := by
  unfold outputRequest observed
  rw [request_of_lookup svc offset ipcObjectStub hfunc]
  unfold onGetOutput
  simp only [bind_assoc]
  congr 1
  funext result
  obtain ⟨ret, output⟩ := result
  by_cases hret : ret = errOk
  · -- the output has been written, so it is read
    simp [hret, MessageParcel.write]
  · simp [hret]

/-- A method whose status is its result. -/
theorem statusRequest_reliable {code : TimeServiceCode} {memberFunc : TimeServiceFunc m}
    (hfunc : (memberFuncMap svc offset).lookup code.toUInt32 = some memberFunc)
    {arguments : List ParcelItem} {method : m Int32}
    (hrun : memberFunc ⟨arguments, none, .fails⟩ ⟨[], none, .fails⟩
      = OptionT.lift method >>= fun ret => pure (ret, ⟨[], none, .fails⟩)) :
    statusRequest .reliable (TimeServiceStub.onRemoteRequest svc offset ipcObjectStub) offset code
        arguments
      = OptionT.lift method := by
  unfold statusRequest
  rw [request_of_lookup svc offset ipcObjectStub hfunc, hrun, bind_assoc]
  simp only [pure_bind, bind_pure]

/-- A method without result. -/
theorem voidRequest_reliable {code : TimeServiceCode} {memberFunc : TimeServiceFunc m}
    (hfunc : (memberFuncMap svc offset).lookup code.toUInt32 = some memberFunc) {method : m Unit}
    (hrun : memberFunc ⟨[], none, .fails⟩ ⟨[], none, .fails⟩
      = OptionT.lift method >>= fun _ => pure (errOk, ⟨[], none, .fails⟩)) :
    voidRequest .reliable (TimeServiceStub.onRemoteRequest svc offset ipcObjectStub) code
      = OptionT.lift method := by
  unfold voidRequest
  rw [request_of_lookup svc offset ipcObjectStub hfunc, hrun, bind_assoc]
  simp only [pure_bind]
  exact bind_pure _

/-- The proxy decodes what the stub makes of a `bool`, when a failure's code is not `ERR_OK`. -/
theorem boolStatus_decode (hoffset : TimeError.dealFailed.code offset ≠ errOk) (ok : Bool) :
    (!decide (boolStatus offset ok ≠ errNone)) = ok := by
  cases ok with
  | false => simpa [boolStatus] using hoffset
  | true => simp [boolStatus]

/-- A method that returns a `bool`. -/
theorem boolRequest_reliable (hoffset : TimeError.dealFailed.code offset ≠ errOk)
    {code : TimeServiceCode} {memberFunc : TimeServiceFunc m}
    (hfunc : (memberFuncMap svc offset).lookup code.toUInt32 = some memberFunc)
    {arguments : List ParcelItem} {method : m Bool}
    (hrun : memberFunc ⟨arguments, none, .fails⟩ ⟨[], none, .fails⟩
      = OptionT.lift method >>= fun ok => pure (boolStatus offset ok, ⟨[], none, .fails⟩)) :
    boolRequest .reliable (TimeServiceStub.onRemoteRequest svc offset ipcObjectStub) code arguments
      = OptionT.lift method := by
  unfold boolRequest
  rw [request_of_lookup svc offset ipcObjectStub hfunc, hrun, bind_assoc]
  simp only [pure_bind, boolStatus_decode offset hoffset, bind_pure]

/-- `CreateTimer` encodes its failure as the id 0. -/
theorem createTimer_reliable (hoffset : TimeError.dealFailed.code offset ≠ errOk) (type : Int32)
    (repeats : Bool) (interval : UInt64) (obj : ℕ) :
    TimeServiceProxy.createTimer .reliable
        (TimeServiceStub.onRemoteRequest svc offset ipcObjectStub) type repeats interval (some obj)
      = OptionT.lift (svc.createTimer type repeats interval (some obj)) := by
  unfold TimeServiceProxy.createTimer
  rw [request_of_lookup svc offset ipcObjectStub rfl]
  unfold onCreateTimer
  simp only [MessageParcel.read_cons, pure_bind, bind_assoc, reduceCtorEq, if_false]
  refine Eq.trans ?_ (bind_pure (OptionT.lift (svc.createTimer type repeats interval (some obj))))
  apply bind_congr
  intro timerId
  by_cases hid : timerId = 0
  · simp [hid, hoffset]
  · -- the id is written, so it is read
    simp [hid, MessageParcel.write]

end

/-- **IPC transparency.** For every service, in every monad: through `TimeServiceProxy` and
    `TimeServiceStub` on a reliable platform each method is the service's own (with a callback
    object that is not null and a uid other than 0), and so is `NotifyTimer` through the proxy and
    stub of the timer callback. -/
theorem ipc_transparent [LawfulMonad m] (svc : ITimeService m) (notifyTimer : UInt64 → m Unit)
    (ipcObjectStub : RemoteStub m) {offset : Int32}
    (hoffset : TimeError.dealFailed.code offset ≠ errOk) :
    IpcTransparent svc offset (TimeServiceStub.onRemoteRequest svc offset ipcObjectStub) ∧
    ∀ timerId, TimerCallbackProxy.notifyTimer .reliable
        (TimerCallbackStub.onRemoteRequest offset notifyTimer ipcObjectStub) timerId
      = OptionT.lift (notifyTimer timerId) := by
  constructor
  · constructor
    case setTime =>
      intro time
      apply statusRequest_reliable svc offset ipcObjectStub rfl
      simp only [onSetTime, MessageParcel.read_cons, pure_bind]
      rfl
    case setTimeZone =>
      intro timezoneId
      apply statusRequest_reliable svc offset ipcObjectStub rfl
      simp only [onSetTimeZone, MessageParcel.read_cons, pure_bind]
      rfl
    case getTimeZone => exact outputRequest_reliable svc offset ipcObjectStub rfl
    case getWallTimeMs => exact outputRequest_reliable svc offset ipcObjectStub rfl
    case getWallTimeNs => exact outputRequest_reliable svc offset ipcObjectStub rfl
    case getBootTimeMs => exact outputRequest_reliable svc offset ipcObjectStub rfl
    case getBootTimeNs => exact outputRequest_reliable svc offset ipcObjectStub rfl
    case getMonotonicTimeMs => exact outputRequest_reliable svc offset ipcObjectStub rfl
    case getMonotonicTimeNs => exact outputRequest_reliable svc offset ipcObjectStub rfl
    case getThreadTimeMs => exact outputRequest_reliable svc offset ipcObjectStub rfl
    case getThreadTimeNs => exact outputRequest_reliable svc offset ipcObjectStub rfl
    case createTimer => exact createTimer_reliable svc offset ipcObjectStub hoffset
    case startTimer =>
      intro timerId triggerTimes
      apply boolRequest_reliable svc offset ipcObjectStub hoffset rfl
      simp only [onStartTimer, MessageParcel.read_cons, pure_bind]
      rfl
    case stopTimer =>
      intro timerId
      apply boolRequest_reliable svc offset ipcObjectStub hoffset rfl
      simp only [onStopTimer, MessageParcel.read_cons, pure_bind]
      rfl
    case destroyTimer =>
      intro timerId
      apply boolRequest_reliable svc offset ipcObjectStub hoffset rfl
      simp only [onDestoryTimer, MessageParcel.read_cons, pure_bind]
      rfl
    case networkTimeStatusOn => exact voidRequest_reliable svc offset ipcObjectStub rfl rfl
    case networkTimeStatusOff => exact voidRequest_reliable svc offset ipcObjectStub rfl rfl
    case proxyTimer =>
      intro uid isProxy needRetrigger huid
      apply boolRequest_reliable svc offset ipcObjectStub hoffset rfl
      -- the stub refuses the uid 0 only
      simp only [onTimerProxy, MessageParcel.read_cons, pure_bind, huid, if_false]
      rfl
    case resetAllProxy => exact boolRequest_reliable svc offset ipcObjectStub hoffset rfl rfl
  · intro timerId
    unfold TimerCallbackProxy.notifyTimer
    rw [IpcLine.request_reliable, TimerCallbackStub.onRemoteRequest_notifyTimer]
    simp only [onTriggerStub, MessageParcel.read_cons, pure_bind, bind_assoc]
    exact bind_pure _

/-- A service that notes its calls of `StartTimer`. -/
def notedService : ITimeService (StateM (List (UInt64 × UInt64))) :=
  ⟨fun _ => pure errOk, fun _ => pure errOk, pure (errOk, "Asia/Shanghai"), pure (errOk, 0),
    pure (errOk, 0), pure (errOk, 0), pure (errOk, 0), pure (errOk, 0), pure (errOk, 0),
    pure (errOk, 0), pure (errOk, 0), fun _ _ _ _ => pure 1,
    fun timerId triggerTime => do modify (· ++ [(timerId, triggerTime)]); return true,
    fun _ => pure false, fun _ => pure false, pure (), pure (), fun _ _ _ => pure true, pure true⟩

/-- `StartTimer` of timer 5 through proxy and stub: one call, with these arguments. -/
theorem ipc_transparent_startTimer :
    (TimeServiceProxy.startTimer .reliable
        (TimeServiceStub.onRemoteRequest notedService 262144 fun _ _ _ => failure) 5
        1000).run.run []
      = (some true, [(5, 1000)]) := by
  have hoffset : TimeError.dealFailed.code 262144 ≠ errOk := by decide
  rw [(ipc_transparent notedService (fun _ => pure ()) (fun _ _ _ => failure)
    hoffset).1.startTimer 5 1000]
  rfl

end TimeService
