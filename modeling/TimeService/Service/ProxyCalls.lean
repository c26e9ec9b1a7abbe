import TimeService.Ipc.Transparency
import TimeService.Timer.Manager

namespace TimeService

/-!
# Proxy requests and their answers

`ProxyTimer` and `ResetAllProxy` from `TimeServiceClient` down to `TimerManager`.  The methods of
the service return a `bool`, and answer a caller without permission with an error code, which is
not zero.

* `proxyCalls_honest_iff`: the callers whom the answer does not deceive.
-/

/-- `ATokenTypeEnum`. -/
inductive ATokenType
  | invalid
  | hap
  | native
  | shell
deriving DecidableEq, Repr

/-- `TimePermission::CheckProxyCallingPermission`, with the type of the caller's token. -/
def checkProxyCallingPermission (tokenType : ATokenType) : Bool := tokenType = .native

/-- `timerManagerHandler_`, and the proxy operations that have been performed on it.  The code does
    not keep the second. -/
structure ProxyCalls where
  timerManagerHandler : Option System
  performed : List ProxyOp

/-- What `TimerManager` answers to an operation of a proxy request. -/
def ProxyTable.answer (t : ProxyTable) : ProxyOp → Bool
  | .proxyTimer uid isProxy needRetrigger => (t.proxyTimer uid isProxy needRetrigger).1
  | .resetAllProxy => t.resetAllProxy.1
  | _ => false

/-- A proxy request on `timerManagerHandler_`, which is created first when there is none. -/
def performProxy (created : Option ℤ) (op : ProxyOp) : StateM ProxyCalls Bool := fun s =>
  match s.timerManagerHandler.orElse fun _ => created.map System.init with
  | none => (false, s)
  | some manager =>
    (manager.proxy.table.answer op,
      ⟨some { manager with proxy := manager.proxy.step op }, s.performed ++ [op]⟩)

/-- The beginning of both methods: the error code of a caller without permission is converted to
    `bool`. -/
def proxyRequest (offset : Int32) (tokenType : ATokenType) (created : Option ℤ) (op : ProxyOp) :
    StateM ProxyCalls Bool :=
  if !checkProxyCallingPermission tokenType then
    -- `return E_TIME_NO_PERMISSION` in a function of type `bool`
    pure (decide (TimeError.noPermission.code offset ≠ 0))
  else performProxy created op

/-- `TimeService` with its `ProxyTimer` and `ResetAllProxy`; what the other methods do is left
    open. -/
def timeService (svc : ITimeService (StateM ProxyCalls)) (offset : Int32) (tokenType : ATokenType)
    (created : Option ℤ) : ITimeService (StateM ProxyCalls) :=
  { svc with
    proxyTimer := fun uid isProxy needRetrigger =>
      proxyRequest offset tokenType created (.proxyTimer uid.toInt isProxy needRetrigger)
    resetAllProxy := proxyRequest offset tokenType created .resetAllProxy }

section
variable {m : Type → Type} [Monad m] (connected : Bool) (line : IpcLine) (stub : RemoteStub m)

/-- `TimeServiceClient::ProxyTimer`; without a connection to the service it gives up. -/
def TimeServiceClient.proxyTimer (uid : Int32) (isProxy needRetrigger : Bool) : OptionT m Bool :=
  if !connected then pure false
  else TimeServiceProxy.proxyTimer line stub uid isProxy needRetrigger

/-- `TimeServiceClient::ResetAllProxy`. -/
def TimeServiceClient.resetAllProxy : OptionT m Bool :=
  if !connected then pure false else TimeServiceProxy.resetAllProxy line stub

end

/-- What a caller may conclude from the answer: it is true exactly when the caller has permission
    and the operation was performed and answered true, and a caller without permission is told so
    and changes nothing. -/
structure HonestAnswer (tokenType : ATokenType) (manager : System) (op : ProxyOp)
    (s : ProxyCalls) (answer : Option Bool × ProxyCalls) : Prop where
  answered : answer.1.isSome
  true_iff : answer.1 = some true ↔ checkProxyCallingPermission tokenType = true ∧
    answer.2.performed = s.performed ++ [op] ∧ manager.proxy.table.answer op = true
  denied : checkProxyCallingPermission tokenType = false → answer = (some false, s)

/-! ### The answers -/

section
variable (svc : ITimeService (StateM ProxyCalls)) {offset : Int32} (tokenType : ATokenType)
  (created : Option ℤ) (ipcObjectStub : RemoteStub (StateM ProxyCalls))

/-- The stub of the service. -/
def proxyStub (offset : Int32) : RemoteStub (StateM ProxyCalls) :=
  TimeServiceStub.onRemoteRequest (timeService svc offset tokenType created) offset ipcObjectStub

/-- The request is the service's own, for every uid but 0. -/
theorem proxyTimer_of_ne_zero (hoffset : ∀ e : TimeError, e.code offset ≠ errOk) {uid : Int32}
    (huid : uid ≠ 0) (isProxy needRetrigger : Bool) :
    TimeServiceClient.proxyTimer true .reliable
        (proxyStub svc tokenType created ipcObjectStub offset) uid isProxy needRetrigger
      = OptionT.lift (proxyRequest offset tokenType created
          (.proxyTimer uid.toInt isProxy needRetrigger)) := by
  unfold TimeServiceClient.proxyTimer TimeServiceProxy.proxyTimer
  rw [if_neg (by decide)]
  apply boolRequest_reliable (timeService svc offset tokenType created) offset ipcObjectStub
    (hoffset .dealFailed) rfl
  simp only [onTimerProxy, MessageParcel.read_cons, pure_bind, huid, if_false]
  rfl

/-- The stub refuses the uid 0 with an error. -/
theorem proxyTimer_zero (hoffset : ∀ e : TimeError, e.code offset ≠ errOk)
    (isProxy needRetrigger : Bool) :
    TimeServiceClient.proxyTimer true .reliable
        (proxyStub svc tokenType created ipcObjectStub offset) 0 isProxy needRetrigger
      = pure false := by
  unfold TimeServiceClient.proxyTimer TimeServiceProxy.proxyTimer
  rw [if_neg (by decide)]
  unfold boolRequest proxyStub
  rw [request_of_lookup (timeService svc offset tokenType created) offset ipcObjectStub rfl]
  simp only [onTimerProxy, MessageParcel.read_cons, pure_bind, if_true]
  simp [hoffset]

theorem resetAllProxy_reliable (hoffset : ∀ e : TimeError, e.code offset ≠ errOk) :
    TimeServiceClient.resetAllProxy true .reliable
        (proxyStub svc tokenType created ipcObjectStub offset)
      = OptionT.lift (proxyRequest offset tokenType created .resetAllProxy) := by
  unfold TimeServiceClient.resetAllProxy TimeServiceProxy.resetAllProxy
  rw [if_neg (by decide)]
  exact boolRequest_reliable (timeService svc offset tokenType created) offset ipcObjectStub
    (hoffset .dealFailed) rfl rfl

end

/-- A request on a manager, by permission. -/
theorem proxyRequest_run {offset : Int32} (hoffset : ∀ e : TimeError, e.code offset ≠ errOk)
    (tokenType : ATokenType) (created : Option ℤ) (manager : System) (performed : List ProxyOp)
    (op : ProxyOp) :
    (OptionT.lift (proxyRequest offset tokenType created op)).run.run ⟨some manager, performed⟩
      = if tokenType = .native then
          (some (manager.proxy.table.answer op),
            ⟨some { manager with proxy := manager.proxy.step op }, performed ++ [op]⟩)
        else (some true, ⟨some manager, performed⟩) := by
  have hlift : (OptionT.lift (proxyRequest offset tokenType created op)).run.run
      ⟨some manager, performed⟩
      = (some (proxyRequest offset tokenType created op ⟨some manager, performed⟩).1,
          (proxyRequest offset tokenType created op ⟨some manager, performed⟩).2) := rfl
  rw [hlift]
  unfold proxyRequest checkProxyCallingPermission
  by_cases hnative : tokenType = .native
  · rw [if_neg (by simp [hnative]), if_pos hnative]
    rfl
  · -- the error code is not zero
    have hcode : decide (TimeError.noPermission.code offset ≠ 0) = true :=
      decide_eq_true (hoffset .noPermission)
    rw [if_pos (by simp [hnative]), if_neg hnative, hcode]
    rfl

/-- A request is honest exactly when the caller has permission. -/
theorem honestAnswer_proxyRequest_iff {offset : Int32}
    (hoffset : ∀ e : TimeError, e.code offset ≠ errOk) (tokenType : ATokenType)
    (created : Option ℤ) (manager : System) (performed : List ProxyOp) (op : ProxyOp) :
    HonestAnswer tokenType manager op ⟨some manager, performed⟩
        ((OptionT.lift (proxyRequest offset tokenType created op)).run.run
          ⟨some manager, performed⟩)
      ↔ tokenType = .native := by
  rw [proxyRequest_run hoffset]
  constructor
  · intro h
    by_contra hnative
    have hdenied := h.denied (by simp [checkProxyCallingPermission, hnative])
    rw [if_neg hnative] at hdenied
    cases hdenied
  · intro hnative
    rw [if_pos hnative]
    refine ⟨rfl, ?_, fun hdenied => ?_⟩
    · simp [checkProxyCallingPermission, hnative]
    · simp [checkProxyCallingPermission, hnative] at hdenied

/-- **Answers to proxy requests.** For every caller, every argument and every state of the manager:
    what `TimeServiceClient` answers is honest exactly for callers with a native token, and, as the
    stub refuses it, for requests about the uid 0. -/
theorem proxyCalls_honest_iff (svc : ITimeService (StateM ProxyCalls)) {offset : Int32}
    (hoffset : ∀ e : TimeError, e.code offset ≠ errOk) (tokenType : ATokenType)
    (created : Option ℤ) (ipcObjectStub : RemoteStub (StateM ProxyCalls)) (manager : System)
    (performed : List ProxyOp) :
    (∀ (uid : Int32) (isProxy needRetrigger : Bool),
      HonestAnswer tokenType manager (.proxyTimer uid.toInt isProxy needRetrigger)
          ⟨some manager, performed⟩
          ((TimeServiceClient.proxyTimer true .reliable
            (proxyStub svc tokenType created ipcObjectStub offset) uid isProxy
            needRetrigger).run.run ⟨some manager, performed⟩)
        ↔ tokenType = .native ∨ uid = 0) ∧
    (HonestAnswer tokenType manager .resetAllProxy ⟨some manager, performed⟩
        ((TimeServiceClient.resetAllProxy true .reliable
          (proxyStub svc tokenType created ipcObjectStub offset)).run.run
          ⟨some manager, performed⟩)
      ↔ tokenType = .native) := by
  constructor
  · intro uid isProxy needRetrigger
    by_cases huid : uid = 0
    · subst huid
      rw [proxyTimer_zero svc tokenType created ipcObjectStub hoffset]
      simp only [or_true, iff_true]
      refine ⟨rfl, ?_, fun _ => rfl⟩
      -- nothing is performed, and the answer is false
      show some false = some true ↔ _ ∧ performed = performed ++ [_] ∧ _
      simp
    · rw [proxyTimer_of_ne_zero svc tokenType created ipcObjectStub hoffset huid,
        honestAnswer_proxyRequest_iff hoffset]
      simp [huid]
  · rw [resetAllProxy_reliable svc tokenType created ipcObjectStub hoffset,
      honestAnswer_proxyRequest_iff hoffset]

/-- A service whose other methods do nothing. -/
def idleService : ITimeService (StateM ProxyCalls) :=
  ⟨fun _ => pure errOk, fun _ => pure errOk, pure (errOk, "Asia/Shanghai"), pure (errOk, 0),
    pure (errOk, 0), pure (errOk, 0), pure (errOk, 0), pure (errOk, 0), pure (errOk, 0),
    pure (errOk, 0), pure (errOk, 0), fun _ _ _ _ => pure 1, fun _ _ => pure true,
    fun _ => pure true, fun _ => pure true, pure (), pure (), fun _ _ _ => pure true, pure true⟩

/-- The service, for a caller with a token of this type. -/
def idleProxyStub (tokenType : ATokenType) : RemoteStub (StateM ProxyCalls) :=
  proxyStub idleService tokenType none (fun _ _ _ => failure) 262144

/-- An application without a native token is told that the timers of a uid are held back; nothing
    has been done. -/
theorem proxyCalls_denied_true :
    (TimeServiceClient.proxyTimer true .reliable (idleProxyStub .hap) 20010044 true true).run.run
        ⟨some (.init 1000000000), []⟩ = (some true, ⟨some (.init 1000000000), []⟩) ∧
    ¬ HonestAnswer .hap (.init 1000000000) (.proxyTimer 20010044 true true)
      ⟨some (.init 1000000000), []⟩
      ((TimeServiceClient.proxyTimer true .reliable (idleProxyStub .hap) 20010044 true
        true).run.run ⟨some (.init 1000000000), []⟩) := by
  have hoffset : ∀ e : TimeError, e.code 262144 ≠ errOk := fun e => by cases e <;> decide
  have hanswer : (TimeServiceClient.proxyTimer true .reliable (idleProxyStub .hap) 20010044 true
      true).run.run ⟨some (.init 1000000000), []⟩ = (some true, ⟨some (.init 1000000000), []⟩) := by
    unfold idleProxyStub
    rw [proxyTimer_of_ne_zero _ _ _ _ hoffset (by decide), proxyRequest_run hoffset,
      if_neg (by decide)]
  refine ⟨hanswer, fun hhonest => ?_⟩
  have hdenied := hhonest.denied rfl
  rw [hanswer] at hdenied
  cases hdenied

/-- A native caller's request is answered honestly. -/
theorem proxyCalls_honest_native :
    HonestAnswer .native (.init 1000000000) (.proxyTimer (20010044 : Int32).toInt true true)
      ⟨some (.init 1000000000), []⟩
      ((TimeServiceClient.proxyTimer true .reliable (idleProxyStub .native) 20010044 true
        true).run.run ⟨some (.init 1000000000), []⟩) :=
  ((proxyCalls_honest_iff idleService (fun e => by cases e <;> decide) .native none
    (fun _ _ _ => failure) (.init 1000000000) []).1 20010044 true true).mpr (.inl rfl)

end TimeService
