import TimeService.Ipc.Transparency
import TimeService.Service.TimerCalls

namespace TimeService

/-!
# The timer tables of client and service

`TimeServiceClient::CreateTimer` and `DestroyTimer` with the client's `TimerCallback`, through
proxy and stub, against the service's `TimerManager`.  Every write, the request and the reply may
fail, and both tables are arbitrary at the call.

* `tables_agree_iff`: `DestroyTimer` always leaves the tables as its answer says; `CreateTimer`
  does so exactly when its request creates no entry, or its reply gets through and the number is
  not in the client's table.
-/

/-- What the client keeps of a timer; `OnTrigger` and the want agent are the client's own. -/
structure ITimerInfo where
  type : Int32
  repeats : Bool
  interval : UInt64
deriving DecidableEq, Repr

/-- The tables with the client's entries. -/
abbrev Tables := TimerTables ITimerInfo

/-! ### The client -/

/-- `TimerCallback::InsertTimerCallbackInfo`. -/
def insertTimerCallbackInfo (timerId : UInt64) (timerInfo : Option ITimerInfo) :
    StateM Tables Bool := fun t =>
  match timerInfo with
  | none => (false, t)
  | some info =>
    if timerId ∈ t.timerInfoMap then (false, t)
    else (true, { t with timerInfoMap := t.timerInfoMap.insert timerId info })

/-- `TimerCallback::RemoveTimerCallbackInfo`. -/
def removeTimerCallbackInfo (timerId : UInt64) : StateM Tables Bool := fun t =>
  if timerId ∈ t.timerInfoMap then
    (true, { t with timerInfoMap := t.timerInfoMap.erase timerId })
  else (false, t)

/-- `TimeServiceClient::CreateTimer`; `connected` tells whether there is a proxy or one can be
    made, `timerCallbackInfoObject` is the callback object of the client. -/
def TimeServiceClient.createTimer (line : IpcLine) (stub : RemoteStub (StateM Tables))
    (connected : Bool) (timerCallbackInfoObject : RemoteObject)
    (timerOptions : Option ITimerInfo) : OptionT (StateM Tables) UInt64 :=
  match timerOptions with
  | none => pure 0
  | some options =>
    if !connected then pure 0
    else if timerCallbackInfoObject = none then pure 0
    else do
      let timerId ← TimeServiceProxy.createTimer line stub options.type options.repeats
        options.interval timerCallbackInfoObject
      if timerId = 0 then return 0
      let ret ← insertTimerCallbackInfo timerId timerOptions
      if !ret then return 0
      return timerId

/-- `TimeServiceClient::DestroyTimer`. -/
def TimeServiceClient.destroyTimer (line : IpcLine) (stub : RemoteStub (StateM Tables))
    (connected : Bool) (timerId : UInt64) : OptionT (StateM Tables) Bool :=
  if !connected then pure false
  else do
    let ok ← TimeServiceProxy.destroyTimer line stub timerId
    if ok then
      let _ ← removeTimerCallbackInfo timerId
      return true
    return false

/-- The service: its calls on the timer table, with any other methods. -/
def timerService (base : ITimeService (StateM Tables)) (env : CreateTimerEnv) (created : Option ℤ)
    (clocks : ℕ → Clock) : ITimeService (StateM Tables) :=
  { base with
    createTimer := TimeService.createTimer env
    destroyTimer := TimeService.destroyTimer created clocks }

/-! ### Through proxy and stub -/

/-- The next step after a computation of known outcome. -/
theorem run_bind_of_run {σ α β : Type} {x : OptionT (StateM σ) α} {f : α → OptionT (StateM σ) β}
    {s s' : σ} {a : α} (h : x.run.run s = (some a, s')) :
    (x >>= f).run.run s = (f a).run.run s' := by
  rw [OptionT.run_bind, Option.elimM, StateT.run_bind, h]
  rfl

/-- The next step after a lifted computation. -/
theorem run_lift_bind {σ α β : Type} (x : StateM σ α) (f : α → OptionT (StateM σ) β) (s : σ) :
    ((liftM x : OptionT (StateM σ) α) >>= f).run.run s
      = (f (x.run s).1).run.run (x.run s).2 :=
  run_bind_of_run rfl

section
variable {σ : Type} (svc : ITimeService (StateM σ)) {offset : Int32}
  (ipcObjectStub : RemoteStub (StateM σ)) (line : IpcLine)

/-- `CreateTimer` of the proxy on any line: the service is not called, or it is called once and its
    id may be lost. -/
theorem proxy_createTimer_run (hoffset : ∀ e : TimeError, e.code offset ≠ errOk) (type : Int32)
    (repeats : Bool) (interval : UInt64) (obj : ℕ) (s : σ) :
    (TimeServiceProxy.createTimer line (TimeServiceStub.onRemoteRequest svc offset ipcObjectStub)
        type repeats interval (some obj)).run.run s
      = if line.Sends 5 then
          let result := (svc.createTimer type repeats interval (some obj)).run s
          (some (if line.Returns 1 then result.1 else 0), result.2)
        else (some 0, s) := by
  unfold TimeServiceProxy.createTimer
  rw [IpcLine.request_of_lost line _ _ _ _ fun e he _ => by simp [he]]
  by_cases hsend : line.Sends 5
  · simp only [List.length_cons, List.length_nil, hsend, if_true]
    have hfunc : (memberFuncMap svc offset).lookup TimeServiceCode.createTimer.toUInt32
        = some (onCreateTimer svc offset) := rfl
    rw [TimeServiceStub.onRemoteRequest_of_lookup svc offset ipcObjectStub hfunc]
    unfold onCreateTimer
    simp only [MessageParcel.read_cons, pure_bind, bind_assoc, reduceCtorEq, if_false]
    -- whatever id the service gives, the proxy answers it or 0
    refine Eq.trans (congrArg (fun x : OptionT (StateM σ) UInt64 => x.run.run s)
      (bind_congr (g := fun timerId => pure (if line.Returns 1 then timerId else 0))
        fun timerId => ?_)) rfl
    by_cases hid : timerId = 0
    · simp [hid, hoffset .dealFailed]
    · have hreturns : line.Returns 1 ↔ line.replyError.isNone ∧ line.replyRoom ≠ some 0 := by
        rw [IpcLine.Returns]
        rcases line.replyRoom with _ | _ | n <;> simp
      simp only [hid, if_false, hreturns]
      rcases line.replyRoom with _ | _ | n
      · cases line.replyError <;> simp [MessageParcel.write]
      · simp [MessageParcel.write, hoffset .writeParcelError]
      · cases line.replyError <;> simp [MessageParcel.write]
  · simp only [List.length_cons, List.length_nil, hsend, if_false]
    rfl

/-- `DestroyTimer` of the proxy on any line. -/
theorem proxy_destroyTimer_run (hoffset : ∀ e : TimeError, e.code offset ≠ errOk)
    (timerId : UInt64) (s : σ) :
    (TimeServiceProxy.destroyTimer line (TimeServiceStub.onRemoteRequest svc offset ipcObjectStub)
        timerId).run.run s
      = if line.Sends 2 then
          let result := (svc.destroyTimer timerId).run s
          (some (result.1 && decide (line.replyError.isNone)), result.2)
        else (some false, s) := by
  unfold TimeServiceProxy.destroyTimer boolRequest
  rw [IpcLine.request_of_lost line _ _ _ _ fun e he _ => by simp [he]]
  by_cases hsend : line.Sends 2
  · simp only [List.length_cons, List.length_nil, hsend, if_true]
    have hfunc : (memberFuncMap svc offset).lookup TimeServiceCode.destoryTimer.toUInt32
        = some (onDestoryTimer svc offset) := rfl
    rw [TimeServiceStub.onRemoteRequest_of_lookup svc offset ipcObjectStub hfunc]
    unfold onDestoryTimer
    simp only [MessageParcel.read_cons, pure_bind, bind_assoc,
      boolStatus_decode offset (hoffset .dealFailed)]
    cases line.replyError with
    | none =>
      simp only [Option.isNone_none, if_true, decide_true, Bool.and_true]
      rfl
    | some e =>
      simp only [Option.isNone_some, Bool.false_eq_true, if_false, decide_false, Bool.and_false]
      rfl
  · simp only [List.length_cons, List.length_nil, hsend, if_false]
    rfl

end

/-! ### Agreement -/

/-- The tables after a call of `CreateTimer` are as its answer says: 0 means that the call has left
    no entry, any other id that both sides hold one for it. -/
def CreateAgrees (t t' : Tables) (timerId : UInt64) : Prop :=
  (timerId = 0 → t'.timerEntryMap = t.timerEntryMap ∧ t'.timerInfoMap = t.timerInfoMap) ∧
  (timerId ≠ 0 → timerId.toNat ∈ t'.timerEntryMap ∧ timerId ∈ t'.timerInfoMap)

/-- The request of a call of `CreateTimer` creates an entry: it gets to a manager, and the number
    drawn is not in the table. -/
structure CreatesEntry (line : IpcLine) (connected : Bool) (callbackObject : RemoteObject)
    (timerOptions : Option ITimerInfo) (env : CreateTimerEnv) (t : Tables) : Prop where
  options : timerOptions.isSome
  connected : connected = true
  object : callbackObject.isSome
  sends : line.Sends 5
  callback : env.callbackOk = true
  manager : t.HasManager env.created
  unused : env.timerNumber.1.toNat ∉ t.timerEntryMap

section
variable {base : ITimeService (StateM Tables)} {env : CreateTimerEnv} {created : Option ℤ}
  {clocks : ℕ → Clock} {offset : Int32} {ipcObjectStub : RemoteStub (StateM Tables)}
  {line : IpcLine} {connected : Bool} {callbackObject : RemoteObject}
  {timerOptions : Option ITimerInfo}

/-- A call that does not get to the service, or fails there, answers 0 and leaves the tables. -/
theorem createAgrees_same (t : Tables) : CreateAgrees t t 0 :=
  ⟨fun _ => ⟨rfl, rfl⟩, fun h => (h rfl).elim⟩

/-- What the client makes of the id that it gets: 0 and an id that is in its table already give 0,
    any other is inserted. -/
theorem client_createTimer_run {stub : RemoteStub (StateM Tables)} {options : ITimerInfo} {obj : ℕ}
    {timerId : UInt64} {t t' : Tables}
    (hproxy : (TimeServiceProxy.createTimer line stub options.type options.repeats
      options.interval (some obj)).run.run t = (some timerId, t')) :
    (TimeServiceClient.createTimer line stub true (some obj) (some options)).run.run t
      = if timerId = 0 ∨ timerId ∈ t'.timerInfoMap then (some 0, t')
        else (some timerId,
          { t' with timerInfoMap := t'.timerInfoMap.insert timerId options }) := by
  unfold TimeServiceClient.createTimer
  simp only [Bool.not_true, Bool.false_eq_true, if_false, reduceCtorEq]
  rw [run_bind_of_run hproxy]
  by_cases hid : timerId = 0
  · simp only [hid, if_true, true_or]
    rfl
  · by_cases hused : timerId ∈ t'.timerInfoMap
    · have hinsert : (insertTimerCallbackInfo timerId (some options)).run t' = (false, t') :=
        if_pos hused
      simp only [hid, hused, if_false, if_true, or_true]
      rw [run_lift_bind, hinsert]
      rfl
    · have hinsert : (insertTimerCallbackInfo timerId (some options)).run t'
          = (true, { t' with timerInfoMap := t'.timerInfoMap.insert timerId options }) :=
        if_neg hused
      simp only [hid, hused, if_false, or_self]
      rw [run_lift_bind, hinsert]
      rfl

/-- The answer 0 after the service has drawn a number that was in its table or not. -/
theorem createAgrees_zero {n : UInt64} {t t' : Tables} (hmap : t'.timerInfoMap = t.timerInfoMap)
    (hmem : n.toNat ∈ t'.timerEntryMap)
    (hused : n.toNat ∈ t.timerEntryMap → t'.timerEntryMap = t.timerEntryMap) :
    CreateAgrees t t' 0 ↔ n.toNat ∈ t.timerEntryMap := by
  constructor
  · intro hagrees
    rw [← (hagrees.1 rfl).1]
    exact hmem
  · intro h
    exact ⟨fun _ => ⟨hused h, hmap⟩, fun hne => (hne rfl).elim⟩

/-- `CreateTimer` of the proxy of this service, from what the service's call does. -/
theorem proxy_createTimer_of_service (hoffset : ∀ e : TimeError, e.code offset ≠ errOk)
    (hsend : line.Sends 5) {type : Int32} {repeats : Bool} {interval : UInt64} {obj : ℕ}
    {timerId : UInt64} {t t' : Tables}
    (hrun : (TimeService.createTimer env type repeats interval (some obj)).run t = (timerId, t')) :
    (TimeServiceProxy.createTimer line (TimeServiceStub.onRemoteRequest
        (timerService base env created clocks) offset ipcObjectStub) type repeats interval
        (some obj)).run.run t = (some (if line.Returns 1 then timerId else 0), t') := by
  rw [proxy_createTimer_run _ _ _ hoffset, if_pos hsend]
  have hservice : ((timerService base env created clocks).createTimer type repeats interval
      (some obj)).run t = (timerId, t') := hrun
  simp only [hservice]

/-- A call that has got to a manager agrees with its answer exactly when the number drawn was in the
    table, or its reply comes and the client has no entry of that number. -/
theorem client_createTimer_found {stub : RemoteStub (StateM Tables)} {options : ITimerInfo}
    {obj : ℕ} {timerId : UInt64} {t t' : Tables} (hne : timerId ≠ 0)
    (hproxy : (TimeServiceProxy.createTimer line stub options.type options.repeats
      options.interval (some obj)).run.run t = (some (if line.Returns 1 then timerId else 0), t'))
    (hmap : t'.timerInfoMap = t.timerInfoMap) (hmem : timerId.toNat ∈ t'.timerEntryMap)
    (hused : timerId.toNat ∈ t.timerEntryMap → t'.timerEntryMap = t.timerEntryMap) :
    ∃ answer t'', (TimeServiceClient.createTimer line stub true (some obj)
        (some options)).run.run t = (some answer, t'') ∧
      (CreateAgrees t t'' answer ↔
        (timerId.toNat ∉ t.timerEntryMap → line.Returns 1 ∧ timerId ∉ t.timerInfoMap)) := by
  have hclient := client_createTimer_run hproxy
  rw [hmap] at hclient
  by_cases hreturns : line.Returns 1
  · simp only [hreturns, if_true, hne, false_or] at hclient
    by_cases hleft : timerId ∈ t.timerInfoMap
    · -- an entry left from before makes the client forget the timer
      rw [if_pos hleft] at hclient
      refine ⟨0, t', hclient, ?_⟩
      rw [createAgrees_zero hmap hmem hused]
      exact ⟨fun h hno => (hno h).elim, fun h => by_contra fun hno => (h hno).2 hleft⟩
    · rw [if_neg hleft] at hclient
      refine ⟨_, _, hclient, fun _ _ => ⟨hreturns, hleft⟩, fun _ => ?_⟩
      exact ⟨fun hzero => (hne hzero).elim,
        fun _ => ⟨hmem, AList.mem_insert _ |>.mpr (.inl rfl)⟩⟩
  · -- the id is lost on its way
    simp only [hreturns, if_false, true_or, if_true] at hclient
    refine ⟨0, t', hclient, ?_⟩
    rw [createAgrees_zero hmap hmem hused]
    exact ⟨fun h hno => (hno h).elim, fun h => by_contra fun hno => hreturns (h hno).1⟩

/-- What a call of `CreateTimer` leaves, and exactly when that agrees with its answer. -/
theorem client_createTimer_agrees (hoffset : ∀ e : TimeError, e.code offset ≠ errOk)
    (t : Tables) :
    ∃ timerId t', (TimeServiceClient.createTimer line (TimeServiceStub.onRemoteRequest
        (timerService base env created clocks) offset ipcObjectStub) connected callbackObject
        timerOptions).run.run t = (some timerId, t') ∧
      (CreateAgrees t t' timerId ↔
        (CreatesEntry line connected callbackObject timerOptions env t →
          line.Returns 1 ∧ env.timerNumber.1 ∉ t.timerInfoMap)) := by
  -- a call that changes nothing
  have hsame : ∀ {P : Prop}, ¬ CreatesEntry line connected callbackObject timerOptions env t →
      (CreateAgrees t t 0 ↔ (CreatesEntry line connected callbackObject timerOptions env t → P)) :=
    fun hno => ⟨fun _ h => (hno h).elim, fun _ => createAgrees_same t⟩
  rcases timerOptions with _ | options
  · exact ⟨0, t, rfl, hsame fun h => by cases h.options⟩
  cases connected with
  | false => exact ⟨0, t, rfl, hsame fun h => by cases h.connected⟩
  | true =>
  rcases callbackObject with _ | obj
  · exact ⟨0, t, rfl, hsame fun h => by cases h.object⟩
  by_cases hsend : line.Sends 5
  · rcases createTimer_cases env options.type options.repeats options.interval obj t with
      ⟨hno, hrun⟩ | ⟨hcallback, hmanager, t', hrun, hmap, hmem, hused⟩
    · -- the service fails, and its answer 0 is that of every failure
      have hzero : (TimeServiceProxy.createTimer line (TimeServiceStub.onRemoteRequest
          (timerService base env created clocks) offset ipcObjectStub) options.type options.repeats
          options.interval (some obj)).run.run t = (some 0, t) := by
        rw [proxy_createTimer_of_service hoffset hsend hrun, ite_self]
      refine ⟨0, t, ?_, hsame fun h => hno ⟨h.callback, h.manager⟩⟩
      rw [client_createTimer_run hzero, if_pos (.inl rfl)]
    · have hcreates : CreatesEntry line true (some obj) (some options) env t ↔
          env.timerNumber.1.toNat ∉ t.timerEntryMap :=
        ⟨fun h => h.unused, fun h => ⟨rfl, rfl, rfl, hsend, hcallback, hmanager, h⟩⟩
      rw [hcreates]
      exact client_createTimer_found env.timerNumber.2
        (proxy_createTimer_of_service hoffset hsend hrun) hmap hmem hused
  · have hproxy := proxy_createTimer_run (timerService base env created clocks) ipcObjectStub line
      hoffset options.type options.repeats options.interval obj t
    rw [if_neg hsend] at hproxy
    refine ⟨0, t, ?_, hsame fun h => hsend h.sends⟩
    rw [client_createTimer_run hproxy, if_pos (.inl rfl)]

/-- After `RemoveTimerCallbackInfo` the client has no entry, and the service has none if it had
    none. -/
theorem removeTimerCallbackInfo_gone {timerId : UInt64} {t : Tables}
    (h : timerId.toNat ∉ t.timerEntryMap) :
    timerId.toNat ∉ ((removeTimerCallbackInfo timerId).run t).2.timerEntryMap ∧
      timerId ∉ ((removeTimerCallbackInfo timerId).run t).2.timerInfoMap := by
  by_cases hmem : timerId ∈ t.timerInfoMap
  · have hrun : (removeTimerCallbackInfo timerId).run t
        = (true, { t with timerInfoMap := t.timerInfoMap.erase timerId }) := if_pos hmem
    rw [hrun]
    exact ⟨h, by simp [AList.mem_erase]⟩
  · have hrun : (removeTimerCallbackInfo timerId).run t = (false, t) := if_neg hmem
    rw [hrun]
    exact ⟨h, hmem⟩

/-- `DestroyTimer` answers true only when it has taken the timer out of both tables. -/
theorem client_destroyTimer_agrees (hoffset : ∀ e : TimeError, e.code offset ≠ errOk)
    {timerId : UInt64} {t t' : Tables}
    (h : (TimeServiceClient.destroyTimer line (TimeServiceStub.onRemoteRequest
        (timerService base env created clocks) offset ipcObjectStub) connected
        timerId).run.run t = (some true, t')) :
    timerId.toNat ∉ t'.timerEntryMap ∧ timerId ∉ t'.timerInfoMap := by
  have hproxy := proxy_destroyTimer_run (timerService base env created clocks) ipcObjectStub line
    hoffset timerId t
  unfold TimeServiceClient.destroyTimer at h
  cases connected with
  | false => cases h
  | true =>
    simp only [Bool.not_true, Bool.false_eq_true, if_false] at h
    by_cases hsend : line.Sends 2
    · rw [if_pos hsend] at hproxy
      rw [run_bind_of_run hproxy] at h
      show timerId.toNat ∉ t'.timerEntryMap ∧ timerId ∉ t'.timerInfoMap
      have hservice : ((timerService base env created clocks).destroyTimer timerId).run t
          = (destroyTimer created clocks timerId).run t := rfl
      simp only [hservice] at h
      by_cases hok : ((destroyTimer created clocks timerId).run t).1 = true
      · have hgone := (destroyTimer_true hok).2
        cases hreply : line.replyError.isNone with
        | false =>
          simp only [hreply, Bool.false_eq_true, decide_false, Bool.and_false, if_false] at h
          cases h
        | true =>
          simp only [hok, hreply, decide_true, Bool.and_true, if_true] at h
          rw [run_lift_bind] at h
          cases h
          exact removeTimerCallbackInfo_gone hgone
      · simp only [hok, Bool.false_and, Bool.false_eq_true, if_false] at h
        cases h
    · rw [if_neg hsend] at hproxy
      rw [run_bind_of_run hproxy] at h
      cases h

end

/-- **Agreement of the tables.** For all tables, all failures and all numbers drawn: `CreateTimer`
    leaves the two tables as its answer says exactly when its request creates no entry, or its
    reply gets through and the number is not in the client's table; and `DestroyTimer` answers true
    only when neither table has the timer any more. -/
theorem tables_agree_iff (base : ITimeService (StateM Tables)) (env : CreateTimerEnv)
    (created : Option ℤ) (clocks : ℕ → Clock) {offset : Int32}
    (hoffset : ∀ e : TimeError, e.code offset ≠ errOk) (ipcObjectStub : RemoteStub (StateM Tables))
    (line : IpcLine) (connected : Bool) (t : Tables) :
    (∀ (callbackObject : RemoteObject) (timerOptions : Option ITimerInfo), ∃ timerId t',
      (TimeServiceClient.createTimer line (TimeServiceStub.onRemoteRequest
        (timerService base env created clocks) offset ipcObjectStub) connected callbackObject
        timerOptions).run.run t = (some timerId, t') ∧
      (CreateAgrees t t' timerId ↔
        (CreatesEntry line connected callbackObject timerOptions env t →
          line.Returns 1 ∧ env.timerNumber.1 ∉ t.timerInfoMap))) ∧
    ∀ timerId t', (TimeServiceClient.destroyTimer line (TimeServiceStub.onRemoteRequest
        (timerService base env created clocks) offset ipcObjectStub) connected
        timerId).run.run t = (some true, t') →
      timerId.toNat ∉ t'.timerEntryMap ∧ timerId ∉ t'.timerInfoMap :=
  ⟨fun _ _ => client_createTimer_agrees hoffset t,
    fun _ _ h => client_destroyTimer_agrees hoffset h⟩

/-! ### A lost reply, an entry left over -/

/-- A service whose other methods answer at once. -/
def otherMethods : ITimeService (StateM Tables) :=
  ⟨fun _ => pure errOk, fun _ => pure errOk, pure (errOk, ""), pure (errOk, 0), pure (errOk, 0),
    pure (errOk, 0), pure (errOk, 0), pure (errOk, 0), pure (errOk, 0), pure (errOk, 0),
    pure (errOk, 0), fun _ _ _ _ => pure 0, fun _ _ => pure true, fun _ => pure true,
    fun _ => pure true, pure (), pure (), fun _ _ _ => pure true, pure true⟩

/-- The manager draws the number 7. -/
def drawsSeven : CreateTimerEnv := ⟨20010, true, none, ⟨7, by decide⟩⟩

/-- `CreateTimer` for a one-shot timer, with the error codes of module 4. -/
def createOneShot (line : IpcLine) : OptionT (StateM Tables) UInt64 :=
  TimeServiceClient.createTimer line (TimeServiceStub.onRemoteRequest
    (timerService otherMethods drawsSeven none fun _ => ⟨0, 0⟩) 262144 fun _ _ _ => failure)
    true (some 0) (some ⟨4, false, 0⟩)

theorem code_ne_errOk (e : TimeError) : e.code 262144 ≠ errOk := by
  cases e <;> decide

theorem createOneShot_agrees (line : IpcLine) (t : Tables) :
    ∃ timerId t', (createOneShot line).run.run t = (some timerId, t') ∧
      (CreateAgrees t t' timerId ↔
        (CreatesEntry line true (some 0) (some ⟨4, false, 0⟩) drawsSeven t →
          line.Returns 1 ∧ 7 ∉ t.timerInfoMap)) :=
  client_createTimer_agrees code_ne_errOk t

/-- The tables of a client whose map is given, after a start of the service. -/
def freshTables (timerInfoMap : AList fun _ : UInt64 => ITimerInfo) : Tables :=
  ⟨timerInfoMap, some (.init 0)⟩

theorem createOneShot_creates {line : IpcLine} (hsend : line.Sends 5)
    (timerInfoMap : AList fun _ : UInt64 => ITimerInfo) :
    CreatesEntry line true (some 0) (some ⟨4, false, 0⟩) drawsSeven (freshTables timerInfoMap) :=
  ⟨rfl, rfl, rfl, hsend, rfl, .inl rfl, AList.notMem_empty _⟩

/-- The reply is lost, or an entry for 7 is left from before a restart of the service: the answer of
    `CreateTimer` is not what the tables are. -/
theorem tables_disagree :
    (∃ timerId t', (createOneShot ⟨none, none, none, some ⟨1, by decide⟩, .fails⟩).run.run
        (freshTables ∅) = (some timerId, t') ∧ ¬ CreateAgrees (freshTables ∅) t' timerId) ∧
    ∃ timerId t', (createOneShot .reliable).run.run
        (freshTables (AList.insert 7 ⟨4, false, 0⟩ ∅)) = (some timerId, t') ∧
      ¬ CreateAgrees (freshTables (AList.insert 7 ⟨4, false, 0⟩ ∅)) t' timerId := by
  constructor
  · obtain ⟨timerId, t', hrun, hiff⟩ := createOneShot_agrees
      ⟨none, none, none, some ⟨1, by decide⟩, .fails⟩ (freshTables ∅)
    refine ⟨timerId, t', hrun, fun hagrees => ?_⟩
    have hreturns := (hiff.mp hagrees (createOneShot_creates (by decide) ∅)).1
    revert hreturns
    decide
  · obtain ⟨timerId, t', hrun, hiff⟩ := createOneShot_agrees .reliable
      (freshTables (AList.insert 7 ⟨4, false, 0⟩ ∅))
    refine ⟨timerId, t', hrun, fun hagrees => ?_⟩
    have hnew := (hiff.mp hagrees (createOneShot_creates (by decide) _)).2
    exact hnew (AList.mem_insert _ |>.mpr (.inl rfl))

/-- On a platform that works and with no entry left over, both sides hold the new timer. -/
theorem tables_agree_new :
    ∃ timerId t', (createOneShot .reliable).run.run (freshTables ∅) = (some timerId, t') ∧
      CreateAgrees (freshTables ∅) t' timerId := by
  obtain ⟨timerId, t', hrun, hiff⟩ := (tables_agree_iff otherMethods drawsSeven none
    (fun _ => ⟨0, 0⟩) code_ne_errOk (fun _ _ _ => failure) .reliable true (freshTables ∅)).1
    (some 0) (some ⟨4, false, 0⟩)
  exact ⟨timerId, t', hrun, hiff.mpr fun _ => ⟨by decide, AList.notMem_empty _⟩⟩

end TimeService
