import TimeService.Ipc.Stub

namespace TimeService

/-!
# The client side of the interface

`time_service_proxy.cpp` and `timer_call_back_proxy.cpp`.  Every function is a request
(`IpcLine.request`) with its own code, arguments and treatment of the answer.  An output parameter
that is not assigned is `none` in the result.
-/

variable {m : Type → Type} [Monad m] (line : IpcLine) (stub : RemoteStub m) (offset : Int32)

/-! ### The shapes of answers -/

/-- The requests that return the result itself. -/
def statusRequest (code : TimeServiceCode) (arguments : List ParcelItem) : OptionT m Int32 :=
  line.request stub timeServiceDescriptor code.toUInt32 arguments
    (TimeError.writeParcelError.code offset) fun result _ => pure result

/-- The requests with an output parameter, which is read from the reply of a successful one. -/
def outputRequest (code : TimeServiceCode) (type : ParcelType) :
    OptionT m (Int32 × Option type.Value) :=
  line.request stub timeServiceDescriptor code.toUInt32 []
    (TimeError.writeParcelError.code offset, none) fun result reply => do
      if result ≠ errNone then return (result, none)
      let (output, _) ← reply.read type
      return (result, some output)

/-- The requests that return a `bool`. -/
def boolRequest (code : TimeServiceCode) (arguments : List ParcelItem) : OptionT m Bool :=
  line.request stub timeServiceDescriptor code.toUInt32 arguments false fun result _ =>
    pure (!decide (result ≠ errNone))

/-- The requests that return nothing. -/
def voidRequest (code : TimeServiceCode) : OptionT m Unit :=
  line.request stub timeServiceDescriptor code.toUInt32 [] () fun _ _ => pure ()

/-! ### `TimeServiceProxy` -/

namespace TimeServiceProxy

def setTime (time : Int64) : OptionT m Int32 :=
  statusRequest line stub offset .setTime [⟨.int64, time⟩]

def createTimer (type : Int32) (repeats : Bool) (interval : UInt64)
    (timerCallback : RemoteObject) : OptionT m UInt64 :=
  line.request stub timeServiceDescriptor TimeServiceCode.createTimer.toUInt32
    [⟨.int32, type⟩, ⟨.bool, repeats⟩, ⟨.uint64, interval⟩, ⟨.remoteObject, timerCallback⟩] 0
    fun result reply => do
      if result ≠ errNone then return 0
      let (timerId, _) ← reply.read .uint64
      return timerId

def startTimer (timerId triggerTimes : UInt64) : OptionT m Bool :=
  boolRequest line stub .startTimer [⟨.uint64, timerId⟩, ⟨.uint64, triggerTimes⟩]

def stopTimer (timerId : UInt64) : OptionT m Bool :=
  boolRequest line stub .stopTimer [⟨.uint64, timerId⟩]

def destroyTimer (timerId : UInt64) : OptionT m Bool :=
  boolRequest line stub .destoryTimer [⟨.uint64, timerId⟩]

def setTimeZone (timezoneId : String) : OptionT m Int32 :=
  statusRequest line stub offset .setTimeZone [⟨.string, timezoneId⟩]

def getTimeZone : OptionT m (Int32 × Option String) :=
  outputRequest line stub offset .getTimeZone .string

def getWallTimeMs : OptionT m (Int32 × Option Int64) :=
  outputRequest line stub offset .getWallTimeMilli .int64

def getWallTimeNs : OptionT m (Int32 × Option Int64) :=
  outputRequest line stub offset .getWallTimeNano .int64

def getBootTimeMs : OptionT m (Int32 × Option Int64) :=
  outputRequest line stub offset .getBootTimeMilli .int64

def getBootTimeNs : OptionT m (Int32 × Option Int64) :=
  outputRequest line stub offset .getBootTimeNano .int64

def getMonotonicTimeMs : OptionT m (Int32 × Option Int64) :=
  outputRequest line stub offset .getMonoTimeMilli .int64

def getMonotonicTimeNs : OptionT m (Int32 × Option Int64) :=
  outputRequest line stub offset .getMonoTimeNano .int64

def getThreadTimeMs : OptionT m (Int32 × Option Int64) :=
  outputRequest line stub offset .getThreadTimeMilli .int64

def getThreadTimeNs : OptionT m (Int32 × Option Int64) :=
  outputRequest line stub offset .getThreadTimeNano .int64

def networkTimeStatusOn : OptionT m Unit := voidRequest line stub .networkTimeOn

def networkTimeStatusOff : OptionT m Unit := voidRequest line stub .networkTimeOff

def proxyTimer (uid : Int32) (isProxy needRetrigger : Bool) : OptionT m Bool :=
  boolRequest line stub .proxyTimer [⟨.int32, uid⟩, ⟨.bool, isProxy⟩, ⟨.bool, needRetrigger⟩]

def resetAllProxy : OptionT m Bool := boolRequest line stub .resetAllProxy []

end TimeServiceProxy

/-- `TimerCallbackProxy::NotifyTimer`, on a remote object that is not null. -/
def TimerCallbackProxy.notifyTimer (timerId : UInt64) : OptionT m Unit :=
  line.request stub timerCallbackDescriptor notifyTimerCode [⟨.uint64, timerId⟩] () fun _ _ =>
    pure ()

end TimeService
