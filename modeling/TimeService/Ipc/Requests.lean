import TimeService.Lib.Effects
import TimeService.Ipc.Stub

namespace TimeService

open Effects

/-!
# What a request can do

A request is anything that arrives at `TimeServiceStub::OnRemoteRequest`: any code, any parcel, of
a client of this repository or of another program.  A handler that reads another type than the one
that was written, or past the end, goes on with whatever the platform gives it.

* `TimeServiceStub.onRemoteRequest_atMostOne`: whatever the request, it performs one call of the
  service at most, or what the platform's stub does.
-/

/-- A call of a method of `ITimeService`. -/
inductive ServiceCall
  | setTime (time : Int64)
  | setTimeZone (timeZoneId : String)
  | getTimeZone
  | getWallTimeMs
  | getWallTimeNs
  | getBootTimeMs
  | getBootTimeNs
  | getMonotonicTimeMs
  | getMonotonicTimeNs
  | getThreadTimeMs
  | getThreadTimeNs
  | createTimer (type : Int32) (repeats : Bool) (interval : UInt64) (obj : RemoteObject)
  | startTimer (timerId triggerTimes : UInt64)
  | stopTimer (timerId : UInt64)
  | destroyTimer (timerId : UInt64)
  | networkTimeStatusOn
  | networkTimeStatusOff
  | proxyTimer (uid : Int32) (isProxy needRetrigger : Bool)
  | resetAllProxy

variable {σ : Type} (svc : ITimeService (StateM σ)) (offset : Int32)

/-- What a call does to the state. -/
def ITimeService.effect : ServiceCall → σ → σ
  | .setTime time, s => ((svc.setTime time).run s).2
  | .setTimeZone timeZoneId, s => ((svc.setTimeZone timeZoneId).run s).2
  | .getTimeZone, s => (svc.getTimeZone.run s).2
  | .getWallTimeMs, s => (svc.getWallTimeMs.run s).2
  | .getWallTimeNs, s => (svc.getWallTimeNs.run s).2
  | .getBootTimeMs, s => (svc.getBootTimeMs.run s).2
  | .getBootTimeNs, s => (svc.getBootTimeNs.run s).2
  | .getMonotonicTimeMs, s => (svc.getMonotonicTimeMs.run s).2
  | .getMonotonicTimeNs, s => (svc.getMonotonicTimeNs.run s).2
  | .getThreadTimeMs, s => (svc.getThreadTimeMs.run s).2
  | .getThreadTimeNs, s => (svc.getThreadTimeNs.run s).2
  | .createTimer type repeats interval obj, s =>
    ((svc.createTimer type repeats interval obj).run s).2
  | .startTimer timerId triggerTimes, s => ((svc.startTimer timerId triggerTimes).run s).2
  | .stopTimer timerId, s => ((svc.stopTimer timerId).run s).2
  | .destroyTimer timerId, s => ((svc.destroyTimer timerId).run s).2
  | .networkTimeStatusOn, s => (svc.networkTimeStatusOn.run s).2
  | .networkTimeStatusOff, s => (svc.networkTimeStatusOff.run s).2
  | .proxyTimer uid isProxy needRetrigger, s =>
    ((svc.proxyTimer uid isProxy needRetrigger).run s).2
  | .resetAllProxy, s => (svc.resetAllProxy.run s).2

/-- A read of a parcel has no effect. -/
theorem MessageParcel.constant_read (p : MessageParcel) (type : ParcelType) :
    Constant (p.read type : OptionT (StateM σ) (type.Value × MessageParcel)) := by
  have hother : Constant (p.readOther type : OptionT (StateM σ) (type.Value × MessageParcel)) := by
    unfold MessageParcel.readOther
    split
    · exact .inr ⟨_, rfl⟩
    · exact .inl rfl
  unfold MessageParcel.read
  split
  · exact hother
  · split
    · exact .inr ⟨_, rfl⟩
    · exact hother

variable {E : (σ → σ) → Prop}

/-- The handlers of the methods with an output parameter. -/
theorem onGetOutput_atMostOne {type : ParcelType} {method : StateM σ (Int32 × type.Value)}
    (hmethod : E fun s => (method.run s).2) (data reply : MessageParcel) :
    AtMostOne E (onGetOutput type method data reply) := by
  apply atMostOne_call_bind hmethod
  rintro ⟨ret, output⟩
  show Silent (if _ then _ else _)
  split
  · exact silent_pure _
  · exact silent_pure _

variable {svc}

/-- Every handler of the table performs one call at most. -/
theorem memberFuncMap_atMostOne (hcalls : ∀ call, E (svc.effect call)) :
    ∀ entry ∈ memberFuncMap svc offset, ∀ data reply, AtMostOne E (entry.2 data reply) := by
  have hread : ∀ {α : Type} (p : MessageParcel) (type : ParcelType)
      {k : type.Value × MessageParcel → OptionT (StateM σ) α},
      (∀ r, AtMostOne E (k r)) → AtMostOne E (p.read type >>= k) :=
    fun p type => (p.constant_read type).bind
  have hquiet : ∀ {α : Type} (ret : α → Int32) (reply : MessageParcel) (a : α),
      Silent (return (ret a, reply) : OptionT (StateM σ) (Int32 × MessageParcel)) :=
    fun ret reply a => silent_pure (ret a, reply)
  simp only [memberFuncMap, List.forall_mem_cons]
  refine ⟨fun data reply => ?_, fun data reply => ?_, ?_, ?_, ?_, ?_, ?_, ?_, ?_, ?_, ?_,
    fun data reply => ?_, fun data reply => ?_, fun data reply => ?_, fun data reply => ?_,
    fun _ reply => ?_, fun _ reply => ?_, fun data reply => ?_, fun _ reply => ?_,
    fun _ h => by cases h⟩
  · exact hread data .int64 fun r => atMostOne_call_bind (hcalls (.setTime r.1)) (hquiet id reply)
  · exact hread data .string fun r =>
      atMostOne_call_bind (hcalls (.setTimeZone r.1)) (hquiet id reply)
  · exact onGetOutput_atMostOne (hcalls .getTimeZone)
  · exact onGetOutput_atMostOne (hcalls .getWallTimeMs)
  · exact onGetOutput_atMostOne (hcalls .getWallTimeNs)
  · exact onGetOutput_atMostOne (hcalls .getBootTimeMs)
  · exact onGetOutput_atMostOne (hcalls .getBootTimeNs)
  · exact onGetOutput_atMostOne (hcalls .getMonotonicTimeMs)
  · exact onGetOutput_atMostOne (hcalls .getMonotonicTimeNs)
  · exact onGetOutput_atMostOne (hcalls .getThreadTimeMs)
  · exact onGetOutput_atMostOne (hcalls .getThreadTimeNs)
  · apply hread data .int32
    intro type
    apply hread type.2 .bool
    intro repeats
    apply hread repeats.2 .uint64
    intro interval
    apply hread interval.2 .remoteObject
    intro obj
    show AtMostOne E (if obj.1 = none then _ else _)
    split
    · exact (silent_pure _).atMostOne
    · apply atMostOne_call_bind (hcalls (.createTimer type.1 repeats.1 interval.1 obj.1))
      intro timerId
      -- the timer is there, whether its id can be written or not
      show Silent (if timerId = 0 then _ else _)
      split
      · exact silent_pure _
      · split
        · exact silent_pure _
        · exact silent_pure _
  · exact hread data .uint64 fun timerId => hread timerId.2 .uint64 fun triggerTimes =>
      atMostOne_call_bind (hcalls (.startTimer timerId.1 triggerTimes.1)) (hquiet _ reply)
  · exact hread data .uint64 fun timerId =>
      atMostOne_call_bind (hcalls (.stopTimer timerId.1)) (hquiet _ reply)
  · exact hread data .uint64 fun timerId =>
      atMostOne_call_bind (hcalls (.destroyTimer timerId.1)) (hquiet _ reply)
  · exact atMostOne_call_bind (hcalls .networkTimeStatusOn) (hquiet _ reply)
  · exact atMostOne_call_bind (hcalls .networkTimeStatusOff) (hquiet _ reply)
  · apply hread data .int32
    intro uid
    show AtMostOne E (if uid.1 = 0 then _ else _)
    split
    · exact (silent_pure _).atMostOne
    · exact hread uid.2 .bool fun isProxy => hread isProxy.2 .bool fun needRetrigger =>
        atMostOne_call_bind (hcalls (.proxyTimer uid.1 isProxy.1 needRetrigger.1)) (hquiet _ reply)
  · exact atMostOne_call_bind (hcalls .resetAllProxy) (hquiet _ reply)

/-- **One request, one call.** Whatever the code and the parcels of a request, it leaves the state
    alone, or does what one call of a method of the service does, or what the platform's stub
    does. -/
theorem TimeServiceStub.onRemoteRequest_atMostOne (hcalls : ∀ call, E (svc.effect call))
    {ipcObjectStub : RemoteStub (StateM σ)}
    (hstub : ∀ code data reply, AtMostOne E (ipcObjectStub code data reply)) (code : UInt32)
    (data reply : MessageParcel) :
    AtMostOne E (TimeServiceStub.onRemoteRequest svc offset ipcObjectStub code data reply) := by
  apply (data.constant_read .interfaceToken).bind
  intro token
  show AtMostOne E (if timeServiceDescriptor ≠ token.1 then _ else _)
  split
  · exact hstub code token.2 reply
  · cases hlookup : (memberFuncMap svc offset).lookup code with
    | none => exact hstub code token.2 reply
    | some memberFunc =>
      obtain ⟨before, after, hsplit, -⟩ := List.lookup_eq_some_iff.mp hlookup
      have hmem : (code, memberFunc) ∈ memberFuncMap svc offset := by
        rw [hsplit]
        simp
      exact memberFuncMap_atMostOne offset hcalls _ hmem token.2 reply

end TimeService
