import TimeService.Ipc.Parcel

namespace TimeService

/-!
# The service side of the interface

`time_service_interface.h` and `time_service_stub.cpp`, with the stub of the timer callback from
`timer_call_back_stub.cpp`.  The implementation behind a stub is arbitrary: its methods are
computations of an arbitrary monad.  An output parameter is part of the result.
-/

/-- `ITimeService`. -/
structure ITimeService (m : Type → Type) where
  setTime : Int64 → m Int32
  setTimeZone : String → m Int32
  getTimeZone : m (Int32 × String)
  getWallTimeMs : m (Int32 × Int64)
  getWallTimeNs : m (Int32 × Int64)
  getBootTimeMs : m (Int32 × Int64)
  getBootTimeNs : m (Int32 × Int64)
  getMonotonicTimeMs : m (Int32 × Int64)
  getMonotonicTimeNs : m (Int32 × Int64)
  getThreadTimeMs : m (Int32 × Int64)
  getThreadTimeNs : m (Int32 × Int64)
  createTimer : Int32 → Bool → UInt64 → RemoteObject → m UInt64
  startTimer : UInt64 → UInt64 → m Bool
  stopTimer : UInt64 → m Bool
  destroyTimer : UInt64 → m Bool
  networkTimeStatusOn : m Unit
  networkTimeStatusOff : m Unit
  proxyTimer : Int32 → Bool → Bool → m Bool
  resetAllProxy : m Bool

/-- The method codes of `ITimeService`. -/
inductive TimeServiceCode
  | setTime
  | setTimeZone
  | getTimeZone
  | getWallTimeMilli
  | getWallTimeNano
  | getBootTimeMilli
  | getBootTimeNano
  | getMonoTimeMilli
  | getMonoTimeNano
  | getThreadTimeMilli
  | getThreadTimeNano
  | createTimer
  | startTimer
  | stopTimer
  | destoryTimer
  | networkTimeOn
  | networkTimeOff
  | proxyTimer
  | resetAllProxy
deriving DecidableEq, Repr

/-- The number of a code. -/
def TimeServiceCode.toUInt32 : TimeServiceCode → UInt32
  | .setTime => 0
  | .setTimeZone => 1
  | .getTimeZone => 2
  | .getWallTimeMilli => 3
  | .getWallTimeNano => 4
  | .getBootTimeMilli => 5
  | .getBootTimeNano => 6
  | .getMonoTimeMilli => 7
  | .getMonoTimeNano => 8
  | .getThreadTimeMilli => 9
  | .getThreadTimeNano => 10
  | .createTimer => 11
  | .startTimer => 12
  | .stopTimer => 13
  | .destoryTimer => 14
  | .networkTimeOn => 15
  | .networkTimeOff => 16
  | .proxyTimer => 17
  | .resetAllProxy => 18

/-- The descriptor of `ITimeService`. -/
def timeServiceDescriptor : String := "ohos.miscservices.time.ITimeService"

variable {m : Type → Type} [Monad m] (svc : ITimeService m) (offset : Int32)

/-! ### The handlers -/

/-- A handler of `TimeServiceStub`: it reads its arguments from the data and may write to the
    reply. -/
abbrev TimeServiceFunc (m : Type → Type) :=
  MessageParcel → MessageParcel → OptionT m (Int32 × MessageParcel)

/-- `TimeServiceStub::OnSetTime`. -/
def onSetTime : TimeServiceFunc m := fun data reply => do
  let (time, _) ← data.read .int64
  let ret ← svc.setTime time
  return (ret, reply)

/-- `TimeServiceStub::OnSetTimeZone`. -/
def onSetTimeZone : TimeServiceFunc m := fun data reply => do
  let (timeZoneId, _) ← data.read .string
  let ret ← svc.setTimeZone timeZoneId
  return (ret, reply)

/-- The handlers of the methods with an output parameter.  Whether the write succeeds is not looked
    at. -/
def onGetOutput (type : ParcelType) (method : m (Int32 × type.Value)) : TimeServiceFunc m :=
  fun _ reply => do
    let (ret, output) ← method
    if ret ≠ errOk then return (ret, reply)
    return (ret, (reply.write ⟨type, output⟩).getD reply)

/-- `TimeServiceStub::OnGetTimeZone`. -/
def onGetTimeZone : TimeServiceFunc m := onGetOutput .string svc.getTimeZone

/-- `TimeServiceStub::OnGetWallTimeMs`. -/
def onGetWallTimeMs : TimeServiceFunc m := onGetOutput .int64 svc.getWallTimeMs

/-- `TimeServiceStub::OnGetWallTimeNs`. -/
def onGetWallTimeNs : TimeServiceFunc m := onGetOutput .int64 svc.getWallTimeNs

/-- `TimeServiceStub::OnGetBootTimeMs`. -/
def onGetBootTimeMs : TimeServiceFunc m := onGetOutput .int64 svc.getBootTimeMs

/-- `TimeServiceStub::OnGetBootTimeNs`. -/
def onGetBootTimeNs : TimeServiceFunc m := onGetOutput .int64 svc.getBootTimeNs

/-- `TimeServiceStub::OnGetMonotonicTimeMs`. -/
def onGetMonotonicTimeMs : TimeServiceFunc m := onGetOutput .int64 svc.getMonotonicTimeMs

/-- `TimeServiceStub::OnGetMonotonicTimeNs`. -/
def onGetMonotonicTimeNs : TimeServiceFunc m := onGetOutput .int64 svc.getMonotonicTimeNs

/-- `TimeServiceStub::OnGetThreadTimeMs`. -/
def onGetThreadTimeMs : TimeServiceFunc m := onGetOutput .int64 svc.getThreadTimeMs

/-- `TimeServiceStub::OnGetThreadTimeNs`. -/
def onGetThreadTimeNs : TimeServiceFunc m := onGetOutput .int64 svc.getThreadTimeNs

/-- `TimeServiceStub::OnCreateTimer`. -/
def onCreateTimer : TimeServiceFunc m := fun data reply => do
  let (type, data) ← data.read .int32
  let (repeats, data) ← data.read .bool
  let (interval, data) ← data.read .uint64
  let (obj, _) ← data.read .remoteObject
  if obj = none then return (TimeError.parametersInvalid.code offset, reply)
  let timerId ← svc.createTimer type repeats interval obj
  if timerId = 0 then return (TimeError.dealFailed.code offset, reply)
  match reply.write ⟨.uint64, timerId⟩ with
  | none => return (TimeError.writeParcelError.code offset, reply)
  | some reply => return (errOk, reply)

/-- The answer of the handlers of the methods that return a `bool`. -/
def boolStatus (ok : Bool) : Int32 := if !ok then TimeError.dealFailed.code offset else errOk

/-- `TimeServiceStub::OnStartTimer`. -/
def onStartTimer : TimeServiceFunc m := fun data reply => do
  let (timerId, data) ← data.read .uint64
  let (triggerTime, _) ← data.read .uint64
  let ok ← svc.startTimer timerId triggerTime
  return (boolStatus offset ok, reply)

/-- `TimeServiceStub::OnStopTimer`. -/
def onStopTimer : TimeServiceFunc m := fun data reply => do
  let (timerId, _) ← data.read .uint64
  let ok ← svc.stopTimer timerId
  return (boolStatus offset ok, reply)

/-- `TimeServiceStub::OnDestoryTimer`. -/
def onDestoryTimer : TimeServiceFunc m := fun data reply => do
  let (timerId, _) ← data.read .uint64
  let ok ← svc.destroyTimer timerId
  return (boolStatus offset ok, reply)

/-- `TimeServiceStub::OnNetworkTimeStatusOff`. -/
def onNetworkTimeStatusOff : TimeServiceFunc m := fun _ reply => do
  let _ ← svc.networkTimeStatusOff
  return (errOk, reply)

/-- `TimeServiceStub::OnNetworkTimeStatusOn`. -/
def onNetworkTimeStatusOn : TimeServiceFunc m := fun _ reply => do
  let _ ← svc.networkTimeStatusOn
  return (errOk, reply)

/-- `TimeServiceStub::OnTimerProxy`.  A uid of 0 is refused before the other arguments are read. -/
def onTimerProxy : TimeServiceFunc m := fun data reply => do
  let (uid, data) ← data.read .int32
  if uid = 0 then return (TimeError.readParcelError.code offset, reply)
  let (isProxy, data) ← data.read .bool
  let (needRetrigger, _) ← data.read .bool
  let ok ← svc.proxyTimer uid isProxy needRetrigger
  return (boolStatus offset ok, reply)

/-- `TimeServiceStub::OnAllProxyReset`. -/
def onAllProxyReset : TimeServiceFunc m := fun _ reply => do
  let ok ← svc.resetAllProxy
  return (boolStatus offset ok, reply)

/-! ### The dispatch -/

/-- `memberFuncMap_`. -/
def memberFuncMap : List (UInt32 × TimeServiceFunc m) :=
  [(TimeServiceCode.setTime.toUInt32, onSetTime svc),
   (TimeServiceCode.setTimeZone.toUInt32, onSetTimeZone svc),
   (TimeServiceCode.getTimeZone.toUInt32, onGetTimeZone svc),
   (TimeServiceCode.getWallTimeMilli.toUInt32, onGetWallTimeMs svc),
   (TimeServiceCode.getWallTimeNano.toUInt32, onGetWallTimeNs svc),
   (TimeServiceCode.getBootTimeMilli.toUInt32, onGetBootTimeMs svc),
   (TimeServiceCode.getBootTimeNano.toUInt32, onGetBootTimeNs svc),
   (TimeServiceCode.getMonoTimeMilli.toUInt32, onGetMonotonicTimeMs svc),
   (TimeServiceCode.getMonoTimeNano.toUInt32, onGetMonotonicTimeNs svc),
   (TimeServiceCode.getThreadTimeMilli.toUInt32, onGetThreadTimeMs svc),
   (TimeServiceCode.getThreadTimeNano.toUInt32, onGetThreadTimeNs svc),
   (TimeServiceCode.createTimer.toUInt32, onCreateTimer svc offset),
   (TimeServiceCode.startTimer.toUInt32, onStartTimer svc offset),
   (TimeServiceCode.stopTimer.toUInt32, onStopTimer svc offset),
   (TimeServiceCode.destoryTimer.toUInt32, onDestoryTimer svc offset),
   (TimeServiceCode.networkTimeOn.toUInt32, onNetworkTimeStatusOn svc),
   (TimeServiceCode.networkTimeOff.toUInt32, onNetworkTimeStatusOff svc),
   (TimeServiceCode.proxyTimer.toUInt32, onTimerProxy svc offset),
   (TimeServiceCode.resetAllProxy.toUInt32, onAllProxyReset svc offset)]

/-- `TimeServiceStub::OnRemoteRequest`; `ipcObjectStub` is that of the platform's base class. -/
def TimeServiceStub.onRemoteRequest (ipcObjectStub : RemoteStub m) : RemoteStub m :=
  fun code data reply => do
    let (remoteDescripter, data) ← data.read .interfaceToken
    if timeServiceDescriptor ≠ remoteDescripter then ipcObjectStub code data reply
    else match (memberFuncMap svc offset).lookup code with
      | some memberFunc => memberFunc data reply
      | none => ipcObjectStub code data reply

/-- With the right token a request reaches the handler that is registered under its code. -/
theorem TimeServiceStub.onRemoteRequest_of_lookup [LawfulMonad m] (ipcObjectStub : RemoteStub m)
    {code : TimeServiceCode} {memberFunc : TimeServiceFunc m}
    (hfunc : (memberFuncMap svc offset).lookup code.toUInt32 = some memberFunc)
    (arguments : List ParcelItem) (room : Option ℕ) (misread : Misread) (reply : MessageParcel) :
    TimeServiceStub.onRemoteRequest svc offset ipcObjectStub code.toUInt32
        ⟨⟨.interfaceToken, timeServiceDescriptor⟩ :: arguments, room, misread⟩ reply
      = memberFunc ⟨arguments, room, misread⟩ reply := by
  unfold TimeServiceStub.onRemoteRequest
  simp only [MessageParcel.read_cons, pure_bind, ne_eq, not_true_eq_false, if_false, hfunc]

/-! ### The timer callback -/

/-- The descriptor of `ITimerCallback`. -/
def timerCallbackDescriptor : String := "ohos.miscservices.time.ITimerCallback"

/-- `ITimerCallback::Message::NOTIFY_TIMER`. -/
def notifyTimerCode : UInt32 := 1

/-- `TimerCallbackStub::OnTriggerStub`. -/
def onTriggerStub (notifyTimer : UInt64 → m Unit) (data reply : MessageParcel) :
    OptionT m (Int32 × MessageParcel) := do
  let (timerId, _) ← data.read .uint64
  let _ ← notifyTimer timerId
  return (errOk, reply)

/-- `TimerCallbackStub::OnRemoteRequest`. -/
def TimerCallbackStub.onRemoteRequest (notifyTimer : UInt64 → m Unit)
    (ipcObjectStub : RemoteStub m) : RemoteStub m :=
  fun code data reply => do
    let (remoteDescripter, data) ← data.read .interfaceToken
    if timerCallbackDescriptor ≠ remoteDescripter then
      return (TimeError.readParcelError.code offset, reply)
    else if code = notifyTimerCode then onTriggerStub notifyTimer data reply
    else ipcObjectStub code data reply

theorem TimerCallbackStub.onRemoteRequest_notifyTimer [LawfulMonad m]
    (notifyTimer : UInt64 → m Unit) (ipcObjectStub : RemoteStub m) (arguments : List ParcelItem)
    (misread : Misread) (reply : MessageParcel) :
    TimerCallbackStub.onRemoteRequest offset notifyTimer ipcObjectStub notifyTimerCode
        ⟨⟨.interfaceToken, timerCallbackDescriptor⟩ :: arguments, none, misread⟩ reply
      = onTriggerStub notifyTimer ⟨arguments, none, misread⟩ reply := by
  unfold TimerCallbackStub.onRemoteRequest
  simp only [MessageParcel.read_cons, pure_bind, ne_eq, not_true_eq_false, if_false, if_true]

end TimeService
