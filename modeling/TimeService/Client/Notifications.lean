import TimeService.Client.TimerTables
import TimeService.Timer.OneShot
import TimeService.Timer.Origin

namespace TimeService

open Transition

/-!
# The service and its clients

`TimerManager` with the `TimerCallback` of every client process and the messages between them: the
answers of `CreateTimer` and `DestroyTimer` on their way back, and the `NotifyTimer` messages that
the callbacks of the alarms send.  A message may be lost and is otherwise handled at any later time,
so a notification may arrive when its timer has been destroyed, and an answer may arrive when its
timer has rung.

`CreateTimer` does not check whether the number it draws was drawn before; `FreshNumbers` is the
condition that it was not.

* `ontrigger_sound`: a client is called for a timer that it has asked for, with what it has asked
  for, and never more often than the manager has invoked the callback;
* `destroyed_client_silent`: once a client has handled the answer of `DestroyTimer` it is not called
  for this timer any more, whatever messages are still on their way;
* `ontrigger_once`: a client is called for a one-shot timer at most as often as the timer was set.
-/

/-- A call of `CreateTimer` by a client, with the number that the service has drawn for it. -/
structure Request where
  client : ℕ
  timerId : UInt64
  options : ITimerInfo
deriving DecidableEq, Repr

def Request.key (r : Request) : ℕ × UInt64 := (r.client, r.timerId)

/-- The service, the clients and the messages between them.  A client is named by its callback
    object.  `destroying` is the client whose `DestroyTimer` the service works on, `requests`,
    `drawn` and `onTriggers` are history: the requests served, the numbers drawn and the calls of
    `OnTrigger`. -/
structure Apps where
  manager : System
  timerInfoMap : ℕ → AList fun _ : UInt64 => ITimerInfo
  createAnswers : List Request
  destroying : Option (ℕ × UInt64)
  destroyAnswers : List (ℕ × UInt64)
  notifications : List (ℕ × UInt64)
  requests : List Request
  drawn : List ℕ
  onTriggers : List Request

/-- A new service, and clients that have no timer. -/
def Apps.init (bootTime : ℤ) : Apps where
  manager := .init bootTime
  timerInfoMap := fun _ => ∅
  createAnswers := []
  destroying := none
  destroyAnswers := []
  notifications := []
  requests := []
  drawn := []
  onTriggers := []

/-- What happens: a region of the manager, a call of a client that the service handles, an answer or
    a notification that a client handles, a message that is lost. -/
inductive AppAction
  | service (a : Action)
  | createTimer (client : ℕ) (options : ITimerInfo) (uid : ℤ) (timerNumber : UInt64)
  | destroyTimer (client : ℕ) (timerId : UInt64)
  | createAnswer (r : Request)
  | destroyAnswer (client : ℕ) (timerId : UInt64)
  | notify (client : ℕ) (timerId : UInt64)
  | loseCreateAnswer (r : Request)
  | loseDestroyAnswer (client : ℕ) (timerId : UInt64)
  | loseNotification (client : ℕ) (timerId : UInt64)

/-- The number that an action draws. -/
def Action.drawn : Action → Option ℕ
  | .createTimer randoms _ _ _ _ _ _ => randoms.find? fun timerNumber => timerNumber ≠ 0
  | _ => none

/-- The action ends a `StopTimer` or `DestroyTimer` of the manager. -/
def Action.endsStop : Action → Bool
  | .finishStop => true
  | _ => false

section
variable (isClient : ℕ → Bool)

/-- The message that the callback of an alarm sends: the callback of a client is a call of
    `NotifyTimer` on its `ITimerCallback`; other callbacks are functions of the service. -/
def notification (a : TimerInfo) : Option (ℕ × UInt64) :=
  a.callback.bind fun client => if isClient client then some (client, UInt64.ofNat a.id) else none

/-- The action creates no timer with the callback of a client. -/
def Action.ofService : Action → Bool
  | .createTimer _ _ _ _ _ (some client) _ => !isClient client
  | _ => true

/-- The region of the manager for a call of `TimeService::CreateTimer` by a client. -/
def clientCreateTimer (client : ℕ) (options : ITimerInfo) (uid : ℤ) (timerNumber : UInt64) :
    Action :=
  let paras := paserTimerPara options.type options.repeats options.interval
  .createTimer [timerNumber.toNat] paras.timerType (UInt64.ofInt paras.windowLength).toNat
    paras.interval.toNat paras.flag (some client) uid

/-- The manager has made a step: the callbacks it has invoked send their messages, and a
    `DestroyTimer` that has come to its end answers true. -/
def Apps.serve (s : Apps) (a : Action) (manager : System) : Apps :=
  { s with
    manager := manager
    notifications := s.notifications
      ++ (manager.proxy.delivered.drop s.manager.proxy.delivered.length).filterMap
        (notification isClient)
    drawn := s.drawn ++ a.drawn.toList
    destroying := if a.endsStop then none else s.destroying
    destroyAnswers := if a.endsStop then s.destroyAnswers ++ s.destroying.toList
      else s.destroyAnswers }

/-- A client's table after an operation on it. -/
def Apps.onClient (s : Apps) (client : ℕ) (operation : StateM Tables Bool) : Apps :=
  { s with
    timerInfoMap := Function.update s.timerInfoMap client
      (operation.run ⟨s.timerInfoMap client, none⟩).2.timerInfoMap }

/-- `TimerCallback::NotifyTimer` of a client: `OnTrigger` of what it keeps of the timer, if it
    does. -/
def Apps.notifyTimer (s : Apps) (client : ℕ) (timerId : UInt64) : Apps :=
  { s with
    onTriggers := s.onTriggers
      ++ (((s.timerInfoMap client).lookup timerId).map fun info => ⟨client, timerId, info⟩).toList }

/-- One step; `none` when the action is not enabled. -/
def Apps.step (s : Apps) : AppAction → Option Apps
  | .service a =>
    if a.ofService isClient then (s.manager.step a).map (s.serve isClient a) else none
  | .createTimer client options uid timerNumber =>
    if isClient client then
      let a := clientCreateTimer client options uid timerNumber
      let request : Request := ⟨client, timerNumber, options⟩
      (s.manager.step a).map fun manager =>
        { s.serve isClient a manager with
          createAnswers := s.createAnswers ++ [request]
          requests := s.requests ++ [request] }
    else none
  | .destroyTimer client timerId =>
    let a := Action.destroyTimer timerId.toNat
    (s.manager.step a).map fun manager =>
      { s.serve isClient a manager with
        destroying :=
          if timerId.toNat ∈ s.manager.timerEntryMap then some (client, timerId) else none }
  | .createAnswer r =>
    if r ∈ s.createAnswers then
      let s' := s.onClient r.client (insertTimerCallbackInfo r.timerId (some r.options))
      some { s' with createAnswers := s.createAnswers.erase r }
    else none
  | .destroyAnswer client timerId =>
    if (client, timerId) ∈ s.destroyAnswers then
      let s' := s.onClient client (removeTimerCallbackInfo timerId)
      some { s' with destroyAnswers := s.destroyAnswers.erase (client, timerId) }
    else none
  | .notify client timerId =>
    if (client, timerId) ∈ s.notifications then
      let s' := s.notifyTimer client timerId
      some { s' with notifications := s.notifications.erase (client, timerId) }
    else none
  | .loseCreateAnswer r =>
    if r ∈ s.createAnswers then some { s with createAnswers := s.createAnswers.erase r } else none
  | .loseDestroyAnswer client timerId =>
    if (client, timerId) ∈ s.destroyAnswers then
      some { s with destroyAnswers := s.destroyAnswers.erase (client, timerId) }
    else none
  | .loseNotification client timerId =>
    if (client, timerId) ∈ s.notifications then
      some { s with notifications := s.notifications.erase (client, timerId) }
    else none

/-- The numbers that are drawn have not been drawn before. -/
def FreshNumbers (s : Apps) : AppAction → Prop
  | .service a => ∀ timerNumber, a.drawn = some timerNumber → timerNumber ∉ s.drawn
  | .createTimer _ _ _ timerNumber => timerNumber.toNat ∉ s.drawn
  | _ => True

/-- The states of the runs from a new service whose steps all meet `ok`. -/
def Apps.Reachable (ok : Apps → AppAction → Prop) (s : Apps) : Prop :=
  ∃ bootTime, 0 < bootTime ∧ Reaches (Apps.step isClient) ok (Apps.init bootTime) s

/-- The calls of `NotifyTimer` that the callbacks invoked so far have made. -/
def Apps.invoked (s : Apps) : List (ℕ × UInt64) :=
  s.manager.proxy.delivered.filterMap (notification isClient)

/-! ### What a step can do -/

/-- **Steps, by cases.** -/
inductive AppCase (s : Apps) : AppAction → Apps → Prop
  | service (a manager) (hown : a.ofService isClient = true)
      (hstep : s.manager.step a = some manager) :
      AppCase s (.service a) (s.serve isClient a manager)
  | createTimer (client options uid timerNumber manager) (hclient : isClient client = true)
      (hstep : s.manager.step (clientCreateTimer client options uid timerNumber) = some manager) :
      AppCase s (.createTimer client options uid timerNumber)
        { s.serve isClient (clientCreateTimer client options uid timerNumber) manager with
          createAnswers := s.createAnswers ++ [⟨client, timerNumber, options⟩]
          requests := s.requests ++ [⟨client, timerNumber, options⟩] }
  | destroyTimer (client timerId manager)
      (hstep : s.manager.step (.destroyTimer timerId.toNat) = some manager) :
      AppCase s (.destroyTimer client timerId)
        { s.serve isClient (.destroyTimer timerId.toNat) manager with
          destroying :=
            if timerId.toNat ∈ s.manager.timerEntryMap then some (client, timerId) else none }
  | createAnswer (r) (hr : r ∈ s.createAnswers) :
      AppCase s (.createAnswer r)
        { s.onClient r.client (insertTimerCallbackInfo r.timerId (some r.options)) with
          createAnswers := s.createAnswers.erase r }
  | destroyAnswer (client timerId) (hsent : (client, timerId) ∈ s.destroyAnswers) :
      AppCase s (.destroyAnswer client timerId)
        { s.onClient client (removeTimerCallbackInfo timerId) with
          destroyAnswers := s.destroyAnswers.erase (client, timerId) }
  | notify (client timerId) (hsent : (client, timerId) ∈ s.notifications) :
      AppCase s (.notify client timerId)
        { s.notifyTimer client timerId with
          notifications := s.notifications.erase (client, timerId) }
  | loseCreateAnswer (r) (hr : r ∈ s.createAnswers) :
      AppCase s (.loseCreateAnswer r) { s with createAnswers := s.createAnswers.erase r }
  | loseDestroyAnswer (client timerId) (hsent : (client, timerId) ∈ s.destroyAnswers) :
      AppCase s (.loseDestroyAnswer client timerId)
        { s with destroyAnswers := s.destroyAnswers.erase (client, timerId) }
  | loseNotification (client timerId) (hsent : (client, timerId) ∈ s.notifications) :
      AppCase s (.loseNotification client timerId)
        { s with notifications := s.notifications.erase (client, timerId) }

variable {isClient}

/-- A guarded step is enabled by its guard. -/
private theorem of_guard {P : Prop} [Decidable P] {σ : Type} {x s' : σ}
    (h : (if P then some x else none) = some s') : P ∧ x = s' := by
  split at h
  · exact ⟨‹_›, Option.some.inj h⟩
  · cases h

theorem Apps.appCase {s s' : Apps} {a : AppAction} (h : s.step isClient a = some s') :
    AppCase isClient s a s' := by
  cases a with
  | service a =>
    unfold Apps.step at h
    simp only at h
    split at h
    · obtain ⟨manager, hstep, rfl⟩ := Option.map_eq_some_iff.mp h
      exact .service a manager ‹_› hstep
    · cases h
  | createTimer client options uid timerNumber =>
    unfold Apps.step at h
    simp only at h
    split at h
    · obtain ⟨manager, hstep, rfl⟩ := Option.map_eq_some_iff.mp h
      exact .createTimer client options uid timerNumber manager ‹_› hstep
    · cases h
  | destroyTimer client timerId =>
    obtain ⟨manager, hstep, rfl⟩ := Option.map_eq_some_iff.mp h
    exact .destroyTimer client timerId manager hstep
  | createAnswer r =>
    obtain ⟨hr, rfl⟩ := of_guard h
    exact .createAnswer r hr
  | destroyAnswer client timerId =>
    obtain ⟨hsent, rfl⟩ := of_guard h
    exact .destroyAnswer client timerId hsent
  | notify client timerId =>
    obtain ⟨hsent, rfl⟩ := of_guard h
    exact .notify client timerId hsent
  | loseCreateAnswer r =>
    obtain ⟨hr, rfl⟩ := of_guard h
    exact .loseCreateAnswer r hr
  | loseDestroyAnswer client timerId =>
    obtain ⟨hsent, rfl⟩ := of_guard h
    exact .loseDestroyAnswer client timerId hsent
  | loseNotification client timerId =>
    obtain ⟨hsent, rfl⟩ := of_guard h
    exact .loseNotification client timerId hsent

/-- A step of the service makes a step of the manager, the other steps leave it alone. -/
theorem AppCase.manager {s s' : Apps} {a : AppAction} (h : AppCase isClient s a s') :
    s'.manager = s.manager ∨ ∃ b, s.manager.step b = some s'.manager := by
  cases h with
  | service a manager hown hstep => exact .inr ⟨_, hstep⟩
  | createTimer client options uid timerNumber manager hclient hstep => exact .inr ⟨_, hstep⟩
  | destroyTimer client timerId manager hstep => exact .inr ⟨_, hstep⟩
  | _ => exact .inl rfl

/-- The manager of a run makes a run of its own. -/
theorem Apps.Reachable.manager {ok : Apps → AppAction → Prop} {s : Apps}
    (h : s.Reachable isClient ok) : TimeService.Reachable Always s.manager := by
  obtain ⟨bootTime, hpos, hrun⟩ := h
  have hnew : TimeService.Reachable Always (Apps.init bootTime).manager :=
    ⟨bootTime, hpos, Reaches.refl⟩
  refine @Reaches.invariant _ _ _ _ _ _ (fun t => TimeService.Reachable Always t.manager) hrun
    (fun t a t' ht _ hstep => ?_) hnew
  rcases (Apps.appCase hstep).manager with heq | ⟨b, hb⟩
  · rwa [heq]
  · exact TimeService.Reachable.reaches ht (Reaches.refl.tail trivial hb)

/-- The messages that a step of the manager sends are those of the callbacks it invokes. -/
theorem Apps.serve_invoked (s : Apps) {a : Action} {manager : System}
    (hstep : s.manager.step a = some manager) :
    ∃ l, (s.serve isClient a manager).notifications = s.notifications ++ l ∧
      (s.serve isClient a manager).invoked isClient = s.invoked isClient ++ l := by
  obtain ⟨l, hl⟩ := (System.stepCase hstep).delivered
  refine ⟨l.filterMap (notification isClient), ?_, ?_⟩
  · show s.notifications ++ (manager.proxy.delivered.drop _).filterMap _ = _
    rw [hl, List.drop_left]
  · show manager.proxy.delivered.filterMap _ = _
    rw [hl, List.filterMap_append]
    rfl

/-! ### The invariant -/

/-- The entry that `TimerManager::CreateTimer` makes for a request. -/
def Request.entry (r : Request) (uid : ℤ) : TimerEntry :=
  let paras := paserTimerPara r.options.type r.options.repeats r.options.interval
  ⟨r.timerId.toNat, paras.timerType, (UInt64.ofInt paras.windowLength).toNat,
    paras.interval.toNat, paras.flag, some r.client, uid⟩

variable (isClient) in
/-- An entry with the callback of a client is the entry of one of its requests. -/
def Registered (requests : List Request) (entry : TimerEntry) : Prop :=
  ∀ client, entry.callback = some client → isClient client = true →
    ∃ r ∈ requests, ∃ uid, entry = r.entry uid

variable (isClient) in
/-- What the service and the clients know of each other. -/
structure Apps.Sound (s : Apps) : Prop where
  stems : s.manager.Stems (Registered isClient s.requests)
  drawn : ∀ r ∈ s.requests, r.timerId.toNat ∈ s.drawn
  unique : ∀ r ∈ s.requests, ∀ r' ∈ s.requests, r.timerId = r'.timerId → r = r'
  answers : ∀ r ∈ s.createAnswers, r ∈ s.requests ∧ r.timerId ∉ s.timerInfoMap r.client
  nodup : s.createAnswers.Nodup
  kept : ∀ client timerId info, (s.timerInfoMap client).lookup timerId = some info →
    ⟨client, timerId, info⟩ ∈ s.requests
  called : ∀ r ∈ s.onTriggers, r ∈ s.requests
  counts : ∀ m, (s.onTriggers.map Request.key).count m + s.notifications.count m
    ≤ (s.invoked isClient).count m

theorem Apps.Sound.init (bootTime : ℤ) : (Apps.init bootTime).Sound isClient where
  stems := System.Stems.init _ bootTime
  drawn r hr := (List.not_mem_nil hr).elim
  unique r hr := (List.not_mem_nil hr).elim
  answers r hr := (List.not_mem_nil hr).elim
  nodup := List.nodup_nil
  kept client timerId info h := by cases h
  called r hr := (List.not_mem_nil hr).elim
  counts m := Nat.le_refl _

/-- What a step of the manager for a request, or for none, leaves of the invariant. -/
theorem Apps.Sound.serve {s : Apps} (h : s.Sound isClient) {a : Action} {manager : System}
    (hstep : s.manager.step a = some manager) {requests : List Request}
    (hgrow : ∀ r ∈ s.requests, r ∈ requests)
    (hcreate : ∀ randoms type windowLength interval flag callback uid timerNumber,
      a = .createTimer randoms type windowLength interval flag callback uid →
      randoms.find? (fun n => n ≠ 0) = some timerNumber →
      Registered isClient requests
        ⟨timerNumber, type, windowLength, interval, flag, callback, uid⟩) :
    manager.Stems (Registered isClient requests) ∧
      ∀ m, ((s.serve isClient a manager).onTriggers.map Request.key).count m
          + (s.serve isClient a manager).notifications.count m
        ≤ ((s.serve isClient a manager).invoked isClient).count m := by
  constructor
  · have hstems : s.manager.Stems (Registered isClient requests) :=
      h.stems.mono fun entry hentry client hcallback hclient => by
        obtain ⟨r, hr, huid⟩ := hentry client hcallback hclient
        exact ⟨r, hgrow r hr, huid⟩
    exact hstems.step (System.stepCase hstep) hcreate
  · intro m
    obtain ⟨l, hnotifications, hinvoked⟩ :=
      @Apps.serve_invoked isClient s _ _ hstep
    have hcounts := h.counts m
    rw [hnotifications, hinvoked, List.count_append, List.count_append]
    show (s.onTriggers.map Request.key).count m + _ ≤ _
    omega

/-- What a client keeps after an insertion of a timer that it did not keep. -/
theorem Apps.lookup_insert (s : Apps) {client : ℕ} {timerId : UInt64} (info : ITimerInfo)
    (hnew : timerId ∉ s.timerInfoMap client) (c : ℕ) (k : UInt64) :
    ((s.onClient client (insertTimerCallbackInfo timerId (some info))).timerInfoMap c).lookup k
      = if c = client ∧ k = timerId then some info else (s.timerInfoMap c).lookup k := by
  have hrun : (insertTimerCallbackInfo timerId (some info)).run ⟨s.timerInfoMap client, none⟩
      = (true, ⟨(s.timerInfoMap client).insert timerId info, none⟩) := if_neg hnew
  unfold Apps.onClient
  rw [hrun]
  by_cases hc : c = client
  · subst hc
    by_cases hk : k = timerId
    · subst hk
      simp
    · simp [hk, AList.lookup_insert_ne hk]
  · simp [hc]

/-- What a client keeps after a removal. -/
theorem Apps.lookup_remove (s : Apps) (client : ℕ) (timerId : UInt64) (c : ℕ) (k : UInt64) :
    ((s.onClient client (removeTimerCallbackInfo timerId)).timerInfoMap c).lookup k
      = if c = client ∧ k = timerId then none else (s.timerInfoMap c).lookup k := by
  unfold Apps.onClient
  by_cases hc : c = client
  · subst hc
    by_cases hmem : timerId ∈ s.timerInfoMap c
    · have hrun : (removeTimerCallbackInfo timerId).run ⟨s.timerInfoMap c, none⟩
          = (true, ⟨(s.timerInfoMap c).erase timerId, none⟩) := if_pos hmem
      rw [hrun]
      by_cases hk : k = timerId
      · subst hk
        simp
      · simp [hk, AList.lookup_erase_ne hk]
    · have hrun : (removeTimerCallbackInfo timerId).run ⟨s.timerInfoMap c, none⟩
          = (false, ⟨s.timerInfoMap c, none⟩) := if_neg hmem
      rw [hrun]
      by_cases hk : k = timerId
      · subst hk
        simp [AList.lookup_eq_none.mpr hmem]
      · simp [hk]
  · simp [hc]

/-- A call of a client that the manager has served has drawn its number. -/
theorem clientCreateTimer_drawn {s manager : System} {client : ℕ} {options : ITimerInfo} {uid : ℤ}
    {timerNumber : UInt64}
    (hstep : s.step (clientCreateTimer client options uid timerNumber) = some manager) :
    (clientCreateTimer client options uid timerNumber).drawn = some timerNumber.toNat := by
  show [timerNumber.toNat].find? (fun k => k ≠ 0) = some timerNumber.toNat
  cases hfind : [timerNumber.toNat].find? fun k => k ≠ 0 with
  | none =>
    change (if s.entryCall.isSome then none
      else ([timerNumber.toNat].find? fun k => k ≠ 0).map _) = some manager at hstep
    rw [hfind] at hstep
    split at hstep <;> cases hstep
  | some k => rw [List.mem_singleton.mp (List.mem_of_find?_eq_some hfind)]

/-- A notification that is handled makes one call at most, and is no longer on its way. -/
theorem Apps.count_notifyTimer (s : Apps) {client : ℕ} {timerId : UInt64}
    (hsent : (client, timerId) ∈ s.notifications) (m : ℕ × UInt64) :
    ((s.notifyTimer client timerId).onTriggers.map Request.key).count m
        + (s.notifications.erase (client, timerId)).count m
      ≤ (s.onTriggers.map Request.key).count m + s.notifications.count m := by
  show ((s.onTriggers ++ (((s.timerInfoMap client).lookup timerId).map fun info =>
    (⟨client, timerId, info⟩ : Request)).toList).map Request.key).count m + _ ≤ _
  rw [List.map_append, List.count_append]
  by_cases hm : m = (client, timerId)
  · subst hm
    have hpos := List.count_pos_iff.mpr hsent
    have hcalls : ((((s.timerInfoMap client).lookup timerId).map fun info =>
        (⟨client, timerId, info⟩ : Request)).toList.map Request.key).count (client, timerId)
          ≤ 1 := by
      refine List.count_le_length.trans ?_
      rw [List.length_map]
      cases (s.timerInfoMap client).lookup timerId <;> simp
    rw [List.count_erase_self]
    omega
  · have hcalls : ((((s.timerInfoMap client).lookup timerId).map fun info =>
        (⟨client, timerId, info⟩ : Request)).toList.map Request.key).count m = 0 := by
      rw [List.count_eq_zero]
      intro hmem
      obtain ⟨r, hr, rfl⟩ := List.mem_map.mp hmem
      obtain ⟨info, _, rfl⟩ := Option.map_eq_some_iff.mp (Option.mem_toList.mp hr)
      exact hm rfl
    rw [List.count_erase_of_ne hm]
    omega

/-- **The invariant, one step.** -/
theorem Apps.Sound.step {s s' : Apps} {a : AppAction} (h : s.Sound isClient)
    (hok : FreshNumbers s a) (hcase : AppCase isClient s a s') : s'.Sound isClient := by
  -- losing a notification, or handling it, leaves one less on its way
  have herase : ∀ m k : ℕ × UInt64, (s.notifications.erase m).count k ≤ s.notifications.count k :=
    fun m k => List.erase_sublist.count_le k
  cases hcase with
  | service a manager hown hstep =>
    obtain ⟨hstems, hcounts⟩ := h.serve hstep (fun _ hr => hr) fun _ _ _ _ _ callback _ _ ha _ => by
      -- the service creates no timer with the callback of a client
      subst ha
      intro client hcallback hclient
      obtain rfl : callback = some client := hcallback
      have hother : (!isClient client) = true := hown
      rw [hclient] at hother
      cases hother
    exact ⟨hstems, fun r hr => List.mem_append_left _ (h.drawn r hr), h.unique, h.answers, h.nodup,
      h.kept, h.called, hcounts⟩
  | createTimer client options uid timerNumber manager hclient hstep =>
    let request : Request := ⟨client, timerNumber, options⟩
    have hgrow : ∀ r ∈ s.requests, r ∈ s.requests ++ [request] :=
      fun r hr => List.mem_append_left _ hr
    have hnew : ∀ r ∈ s.requests, r.timerId ≠ timerNumber := by
      rintro r hr rfl
      exact hok (h.drawn r hr)
    obtain ⟨hstems, hcounts⟩ := h.serve hstep hgrow fun _ _ _ _ _ _ _ n ha hdrawn => by
      cases ha
      intro c hcallback _
      obtain rfl : client = c := Option.some.inj hcallback
      refine ⟨request, List.mem_append_right _ (List.mem_singleton.mpr rfl), uid, ?_⟩
      have hmem := List.mem_of_find?_eq_some hdrawn
      rw [List.mem_singleton.mp hmem]
      rfl
    have hunused : timerNumber ∉ s.timerInfoMap client := by
      intro hmem
      obtain ⟨info, hinfo⟩ := Option.isSome_iff_exists.mp (AList.lookup_isSome.mpr hmem)
      exact hnew _ (h.kept client timerNumber info hinfo) rfl
    refine ⟨hstems, fun r hr => ?_, ?_, fun r hr => ?_, ?_,
      fun c k info hinfo => hgrow _ (h.kept c k info hinfo), fun r hr => hgrow r (h.called r hr),
      hcounts⟩
    · rcases List.mem_append.mp hr with hr | hr
      · exact List.mem_append_left _ (h.drawn r hr)
      · rw [List.mem_singleton.mp hr]
        refine List.mem_append_right _ ?_
        rw [clientCreateTimer_drawn hstep]
        exact List.mem_singleton.mpr rfl
    · intro r hr r' hr' heq
      rcases List.mem_append.mp hr with hr | hr <;> rcases List.mem_append.mp hr' with hr' | hr'
      · exact h.unique r hr r' hr' heq
      · rw [List.mem_singleton.mp hr'] at heq
        exact absurd heq (hnew r hr)
      · rw [List.mem_singleton.mp hr] at heq
        exact absurd heq.symm (hnew r' hr')
      · rw [List.mem_singleton.mp hr, List.mem_singleton.mp hr']
    · rcases List.mem_append.mp hr with hr | hr
      · exact ⟨hgrow r (h.answers r hr).1, (h.answers r hr).2⟩
      · rw [List.mem_singleton.mp hr]
        exact ⟨List.mem_append_right _ (List.mem_singleton.mpr rfl), hunused⟩
    · refine List.nodup_append.mpr ⟨h.nodup, List.nodup_singleton _, fun r hr r' hr' heq => ?_⟩
      rw [List.mem_singleton.mp hr'] at heq
      exact hnew r (h.answers r hr).1 (congrArg Request.timerId heq)
  | destroyTimer client timerId manager hstep =>
    obtain ⟨hstems, hcounts⟩ := h.serve hstep (fun _ hr => hr) fun _ _ _ _ _ _ _ _ ha _ => by
      cases ha
    exact ⟨hstems, fun r hr => List.mem_append_left _ (h.drawn r hr), h.unique, h.answers, h.nodup,
      h.kept, h.called, hcounts⟩
  | createAnswer r hr =>
    obtain ⟨hasked, hunused⟩ := h.answers r hr
    have hlookup := s.lookup_insert r.options hunused
    refine ⟨h.stems, h.drawn, h.unique, fun r' hr' => ?_, h.nodup.erase r, fun c k info hinfo => ?_,
      h.called, h.counts⟩
    · -- no other answer on its way is for this timer
      obtain ⟨hasked', hunused'⟩ := h.answers r' (List.mem_of_mem_erase hr')
      refine ⟨hasked', AList.lookup_eq_none.mp ?_⟩
      refine (hlookup r'.client r'.timerId).trans ?_
      rw [if_neg, AList.lookup_eq_none.mpr hunused']
      rintro ⟨_, hid⟩
      rw [h.unique r' hasked' r hasked hid] at hr'
      exact (h.nodup.mem_erase_iff.mp hr').1 rfl
    · have hinfo' := (hlookup c k).symm.trans hinfo
      split at hinfo'
      · rename_i hown
        obtain ⟨rfl, rfl⟩ := hown
        cases hinfo'
        exact hasked
      · exact h.kept c k info hinfo'
  | destroyAnswer client timerId hsent =>
    have hlookup := s.lookup_remove client timerId
    refine ⟨h.stems, h.drawn, h.unique, fun r hr => ?_, h.nodup, fun c k info hinfo => ?_,
      h.called, h.counts⟩
    · obtain ⟨hasked, hunused⟩ := h.answers r hr
      refine ⟨hasked, AList.lookup_eq_none.mp ((hlookup r.client r.timerId).trans ?_)⟩
      split
      · rfl
      · exact AList.lookup_eq_none.mpr hunused
    · have hinfo' := (hlookup c k).symm.trans hinfo
      split at hinfo'
      · cases hinfo'
      · exact h.kept c k info hinfo'
  | notify client timerId hsent =>
    have hcalls : (s.notifyTimer client timerId).onTriggers = s.onTriggers
        ++ (((s.timerInfoMap client).lookup timerId).map fun info =>
          (⟨client, timerId, info⟩ : Request)).toList := rfl
    refine ⟨h.stems, h.drawn, h.unique, h.answers, h.nodup, h.kept, fun r hr => ?_, fun m => ?_⟩
    · rw [show _ = _ from hcalls] at hr
      rcases List.mem_append.mp hr with hr | hr
      · exact h.called r hr
      · obtain ⟨info, hinfo, rfl⟩ := Option.map_eq_some_iff.mp (Option.mem_toList.mp hr)
        exact h.kept client timerId info hinfo
    · exact (s.count_notifyTimer hsent m).trans (h.counts m)
  | loseCreateAnswer r hr =>
    exact ⟨h.stems, h.drawn, h.unique, fun r' hr' => h.answers r' (List.mem_of_mem_erase hr'),
      h.nodup.erase r, h.kept, h.called, h.counts⟩
  | loseDestroyAnswer client timerId hsent =>
    exact ⟨h.stems, h.drawn, h.unique, h.answers, h.nodup, h.kept, h.called, h.counts⟩
  | loseNotification client timerId hsent =>
    refine ⟨h.stems, h.drawn, h.unique, h.answers, h.nodup, h.kept, h.called, fun m => ?_⟩
    exact (Nat.add_le_add_left (herase (client, timerId) m) _).trans (h.counts m)

theorem Apps.Reachable.sound {s : Apps} (h : s.Reachable isClient FreshNumbers) :
    s.Sound isClient := by
  obtain ⟨bootTime, _, hrun⟩ := h
  exact hrun.invariant (fun t a t' (ht : t.Sound isClient) hok hstep =>
    ht.step hok (Apps.appCase hstep)) (Apps.Sound.init bootTime)

/-! ### What the clients see -/

/-- The alarms behind the calls of `NotifyTimer` for a request are alarms of its entry. -/
theorem Apps.Sound.rings {s : Apps} (h : s.Sound isClient) {r : Request} (hr : r ∈ s.requests)
    {a : TimerInfo} (ha : a ∈ s.manager.proxy.delivered)
    (hkey : notification isClient a = some r.key) : ∃ uid, (r.entry uid).Rings a := by
  obtain ⟨client, hcallback, hsent⟩ := Option.bind_eq_some_iff.mp hkey
  split at hsent
  · rename_i hclient
    obtain ⟨rfl, hid⟩ := Prod.mk.inj (Option.some.inj hsent)
    obtain ⟨entry, hregistered, hrings⟩ := h.stems.alarms.delivered a ha
    obtain ⟨r', hr', uid, rfl⟩ := hregistered r.client (hrings.callback_eq ▸ hcallback) hclient
    -- the numbers drawn are all different
    have hsame : r' = r := by
      refine h.unique r' hr' r hr ?_
      rw [← hid, hrings.id_eq]
      exact (UInt64.ofNat_toNat).symm
    exact ⟨uid, hsame ▸ hrings⟩
  · cases hsent

/-- **Calls of the clients.** While the numbers drawn are fresh, in any interleaving of the service,
    the clients and the messages between them: a client is called with what it has given to a call
    of `CreateTimer` of its own that has drawn this number, for an alarm of the entry of that call
    that a pass has triggered, and not before it was due; and the calls it has had and the
    notifications that are still on their way are no more than the callbacks invoked. -/
theorem ontrigger_sound {s : Apps} (h : s.Reachable isClient FreshNumbers) :
    (∀ r ∈ s.onTriggers, r ∈ s.requests ∧ ∃ a ∈ s.manager.triggered, ∃ uid,
      (r.entry uid).Rings a ∧ a.whenElapsed ≤ s.manager.bootTime) ∧
    ∀ m, (s.onTriggers.map Request.key).count m + s.notifications.count m
      ≤ (s.invoked isClient).count m := by
  have hsound := h.sound
  refine ⟨fun r hr => ⟨hsound.called r hr, ?_⟩, hsound.counts⟩
  -- the call has come from a callback that was invoked
  have hcount : 0 < (s.invoked isClient).count r.key := by
    have hpos := List.count_pos_iff.mpr (List.mem_map_of_mem (f := Request.key) hr)
    have hle := hsound.counts r.key
    omega
  obtain ⟨a, ha, hkey⟩ := List.mem_filterMap.mp (List.count_pos_iff.mp hcount)
  obtain ⟨uid, hrings⟩ := hsound.rings (hsound.called r hr) ha hkey
  have htriggered : a ∈ s.manager.triggered := h.manager.fired.mem_triggered ha
  exact ⟨a, htriggered, uid, hrings, h.manager.punctual.triggered a htriggered⟩

/-! ### After a destroy -/

variable (isClient) in
/-- The client keeps nothing of the timer, nothing brings it back, and its number is used up. -/
structure Apps.Gone (s : Apps) (client : ℕ) (timerId : UInt64) : Prop where
  sound : s.Sound isClient
  unused : (s.timerInfoMap client).lookup timerId = none
  unanswered : ∀ r ∈ s.createAnswers, r.key ≠ (client, timerId)
  drawn : timerId.toNat ∈ s.drawn

/-- **Gone, one step.** What a client does not keep it is not called for, and does not come back. -/
theorem Apps.Gone.step {s s' : Apps} {a : AppAction} {client : ℕ} {timerId : UInt64}
    (h : s.Gone isClient client timerId) (hok : FreshNumbers s a)
    (hcase : AppCase isClient s a s') :
    s'.Gone isClient client timerId ∧
      ∃ l, s'.onTriggers = s.onTriggers ++ l ∧ ∀ r ∈ l, r.key ≠ (client, timerId) := by
  have hsound := h.sound.step hok hcase
  have hdrawn : ∀ a manager, timerId.toNat ∈ (s.serve isClient a manager).drawn :=
    fun _ _ => List.mem_append_left _ h.drawn
  have hquiet : ∃ l, s.onTriggers = s.onTriggers ++ l ∧ ∀ r ∈ l, r.key ≠ (client, timerId) :=
    ⟨[], (List.append_nil _).symm, fun _ hr => (List.not_mem_nil hr).elim⟩
  cases hcase with
  | service a manager =>
    exact ⟨⟨hsound, h.unused, h.unanswered, hdrawn a manager⟩, hquiet⟩
  | createTimer c options uid timerNumber manager =>
    refine ⟨⟨hsound, h.unused, fun r hr => ?_, hdrawn _ manager⟩, hquiet⟩
    rcases List.mem_append.mp hr with hr | hr
    · exact h.unanswered r hr
    · rw [List.mem_singleton.mp hr]
      intro hkey
      obtain ⟨rfl, rfl⟩ := Prod.mk.inj hkey
      exact hok h.drawn
  | destroyTimer c k manager =>
    exact ⟨⟨hsound, h.unused, h.unanswered, hdrawn _ manager⟩, hquiet⟩
  | createAnswer r hr =>
    refine ⟨⟨hsound, ?_, fun r' hr' => h.unanswered r' (List.mem_of_mem_erase hr'), h.drawn⟩,
      hquiet⟩
    refine (s.lookup_insert r.options (h.sound.answers r hr).2 client timerId).trans ?_
    rw [if_neg, h.unused]
    rintro ⟨rfl, rfl⟩
    exact h.unanswered r hr rfl
  | destroyAnswer c k =>
    refine ⟨⟨hsound, (s.lookup_remove c k client timerId).trans ?_, h.unanswered, h.drawn⟩, hquiet⟩
    rw [h.unused, ite_self]
  | notify c k =>
    refine ⟨⟨hsound, h.unused, h.unanswered, h.drawn⟩, _, rfl, fun r hr hkey => ?_⟩
    obtain ⟨info, hinfo, rfl⟩ := Option.map_eq_some_iff.mp (Option.mem_toList.mp hr)
    obtain ⟨rfl, rfl⟩ := Prod.mk.inj hkey
    rw [h.unused] at hinfo
    cases hinfo
  | loseCreateAnswer r =>
    exact ⟨⟨hsound, h.unused, fun r' hr' => h.unanswered r' (List.mem_of_mem_erase hr'), h.drawn⟩,
      hquiet⟩
  | loseDestroyAnswer => exact ⟨⟨hsound, h.unused, h.unanswered, h.drawn⟩, hquiet⟩
  | loseNotification => exact ⟨⟨hsound, h.unused, h.unanswered, h.drawn⟩, hquiet⟩

/-- **A destroyed timer does not call its client.** While the numbers drawn are fresh: once a client
    that keeps a timer has handled the answer of `DestroyTimer`, it is never called for the timer
    again, whatever notifications are still on their way and whatever the service does. -/
theorem destroyed_client_silent {s s' s'' : Apps} {client : ℕ} {timerId : UInt64}
    (h : s.Reachable isClient FreshNumbers) (hkept : timerId ∈ s.timerInfoMap client)
    (hstep : s.step isClient (.destroyAnswer client timerId) = some s')
    (hrun : Reaches (Apps.step isClient) FreshNumbers s' s'') :
    timerId ∉ s''.timerInfoMap client ∧
      ∃ l, s''.onTriggers = s'.onTriggers ++ l ∧ ∀ r ∈ l, r.key ≠ (client, timerId) := by
  have hgone : s'.Gone isClient client timerId := by
    have hcase := Apps.appCase hstep
    have hfresh : FreshNumbers s (.destroyAnswer client timerId) := trivial
    have hsound := h.sound.step hfresh hcase
    obtain ⟨info, hinfo⟩ := Option.isSome_iff_exists.mp (AList.lookup_isSome.mpr hkept)
    have hasked := h.sound.kept client timerId info hinfo
    cases hcase
    refine ⟨hsound, ?_, fun r hr hkey => ?_, h.sound.drawn _ hasked⟩
    · exact (s.lookup_remove client timerId client timerId).trans (if_pos ⟨rfl, rfl⟩)
    · -- the answer that has given the client its timer is not on its way any more
      obtain ⟨rfl, rfl⟩ := Prod.mk.inj hkey
      exact (h.sound.answers r hr).2 hkept
  obtain ⟨hlast, hlog⟩ := @Reaches.log _ _ _ _ _ _ _
    (fun t : Apps => t.Gone isClient client timerId)
    (fun r : Request => r.key ≠ (client, timerId)) Apps.onTriggers hrun
    (fun t a t' ht hok hs => ht.step hok (Apps.appCase hs)) hgone
  exact ⟨AList.lookup_eq_none.mp hlast.unused, hlog⟩

/-! ### One-shot timers -/

/-- How many one-shot alarms of the timer a step of the service sets. -/
def Apps.setsOneShot (timerId : UInt64) (s : Apps) : AppAction → ℕ
  | .service a => TimeService.setsOneShot timerId.toNat s.manager a
  | _ => 0

/-- What a run sets, the run of its manager sets. -/
theorem Apps.manager_spends {ok : Apps → AppAction → Prop} {timerId : UInt64} {s s' : Apps} {n : ℕ}
    (h : Spends (Apps.step isClient) ok (Apps.setsOneShot timerId) s n s') :
    SetsOneShots Always timerId.toNat s.manager n s'.manager := by
  induction h with
  | refl => exact .refl
  | tail _ _ hstep ih =>
    cases Apps.appCase hstep with
    | service a manager _ hmanager => exact .tail ih trivial hmanager
    | createTimer client options uid timerNumber manager _ hmanager =>
      exact .tail ih trivial hmanager
    | destroyTimer client k manager hmanager => exact .tail ih trivial hmanager
    | _ => exact ih

/-- **A one-shot timer calls its client at most once for every time it is set.** While the numbers
    drawn are fresh: if a run sets `n` alarms of a timer that a client has asked for without
    repetition, the client has been called for it at most `n` times, also with the notifications
    that are still on their way. -/
theorem ontrigger_once {bootTime : ℤ} (hboot : 0 < bootTime) {r : Request} {n : ℕ} {s : Apps}
    (hrun : Spends (Apps.step isClient) FreshNumbers (Apps.setsOneShot r.timerId)
      (Apps.init bootTime) n s)
    (hr : r ∈ s.requests) (honce : r.options.repeats = false) :
    (s.onTriggers.map Request.key).count r.key + s.notifications.count r.key ≤ n := by
  have hreach : s.Reachable isClient FreshNumbers := ⟨bootTime, hboot, hrun.reaches⟩
  have hsound := hreach.sound
  have hmanager := Apps.manager_spends hrun
  -- the callbacks invoked for the request are of one-shot alarms of its timer
  have honeShot : ∀ a ∈ s.manager.proxy.delivered, notification isClient a = some r.key →
      a.OneShotOf r.timerId.toNat := by
    intro a ha hkey
    obtain ⟨uid, hrings⟩ := hsound.rings hr ha hkey
    refine ⟨hrings.id_eq, fun hrepeats => ?_⟩
    have hinterval : 0 < milliseconds (r.entry uid).interval := hrings.repeats_iff.mp hrepeats
    have hzero : (r.entry uid).interval = 0 := by
      show (if r.options.repeats then r.options.interval else 0).toNat = 0
      rw [honce]
      rfl
    rw [hzero] at hinterval
    exact absurd hinterval (by decide)
  have hinvoked : (s.invoked isClient).count r.key
      ≤ s.manager.proxy.delivered.countP (fun a => a.OneShotOf r.timerId.toNat) := by
    unfold Apps.invoked
    rw [List.count_filterMap]
    refine List.countP_mono_left fun a ha hkey => ?_
    simpa using honeShot a ha (by simpa using hkey)
  have htriggered := hreach.manager.fired.delivered_le fun a => a.OneShotOf r.timerId.toNat
  have hset := System.oneShots_le hboot hmanager
  -- the triggered alarms are among those that are accounted for
  have hamong : s.manager.triggered.countP (fun a => a.OneShotOf r.timerId.toNat)
      ≤ s.manager.oneShots r.timerId.toNat := by
    unfold System.oneShots
    rw [List.countP_append, List.countP_append]
    omega
  have hcounts := hsound.counts r.key
  omega

end

/-! ### A run of one client -/

private def freshNumbers (s : Apps) : AppAction → Bool
  | .service a => a.drawn.all fun timerNumber => timerNumber ∉ s.drawn
  | .createTimer _ _ _ timerNumber => timerNumber.toNat ∉ s.drawn
  | _ => true

private theorem fresh_of_freshNumbers (s : Apps) (a : AppAction) (h : freshNumbers s a = true) :
    FreshNumbers s a := by
  cases a with
  | service a =>
    intro timerNumber hdrawn
    have hall : (a.drawn.all fun timerNumber => timerNumber ∉ s.drawn) = true := h
    rw [hdrawn] at hall
    simpa using hall
  | createTimer client options uid timerNumber =>
    simpa [freshNumbers, FreshNumbers] using h
  | _ => trivial

/-- The client that owns the callback object 0. -/
private def onlyClient (client : ℕ) : Bool := client = 0

/-- An exact one-shot timer of the client, up to the notification that its alarm sends. -/
private def oneNotification : List AppAction :=
  let alarm := (TimerInfo.make 7 3 100000 100000000000 0 100000000000 0 (some 0) 0 0).triggered
    100000000000
  let rings : List Action :=
    startTimerCall 7 100000 (fun _ => true) ⟨1000000000, 0⟩ ++ [.advance 100000000000] ++
      expiryIteration nonWakeupFd ⟨100000000000, 0⟩ [alarm]
  [.createTimer 0 ⟨5, false, 0⟩ 0 7, .createAnswer ⟨0, 7, ⟨5, false, 0⟩⟩] ++
    rings.map AppAction.service

/-- `DestroyTimer` of the client, up to its answer. -/
private def oneDestroy : List AppAction :=
  let regions : List Action :=
    [.removeHandler fun _ => ⟨100000000000, 0⟩, .removeProxy, .finishStop]
  .destroyTimer 0 7 :: regions.map AppAction.service

/-- The notification is handled: the client is called once. -/
theorem ontrigger_sound_one :
    ∃ s : Apps, s.onTriggers = [⟨0, 7, ⟨5, false, 0⟩⟩] ∧ ∃ a ∈ s.manager.triggered, ∃ uid,
      (Request.entry ⟨0, 7, ⟨5, false, 0⟩⟩ uid).Rings a ∧ a.whenElapsed ≤ s.manager.bootTime := by
  obtain ⟨s, hrun, hcheck⟩ := @exists_reaches_of_runWhen _ _ (Apps.step onlyClient) FreshNumbers
    (Apps.init 1000000000) freshNumbers fresh_of_freshNumbers (oneNotification ++ [.notify 0 7])
    (fun s => s.onTriggers = [⟨0, 7, ⟨5, false, 0⟩⟩]) (by decide +kernel)
  rw [decide_eq_true_eq] at hcheck
  have hreach : s.Reachable onlyClient FreshNumbers := ⟨_, by decide, hrun⟩
  refine ⟨s, hcheck, ((ontrigger_sound hreach).1 ⟨0, 7, ⟨5, false, 0⟩⟩ ?_).2⟩
  rw [hcheck]
  exact List.mem_singleton.mpr rfl

/-- The notification is still on its way when the client handles the answer of `DestroyTimer`. -/
theorem destroyed_client_silent_late :
    ∃ s' s'' : Apps, s'.notifications = [(0, 7)] ∧ s''.notifications = [] ∧
      ∃ l, s''.onTriggers = s'.onTriggers ++ l ∧ ∀ r ∈ l, r.key ≠ (0, 7) := by
  obtain ⟨s, hrun, hcheck⟩ := @exists_reaches_of_runWhen _ _ (Apps.step onlyClient) FreshNumbers
    (Apps.init 1000000000) freshNumbers fresh_of_freshNumbers (oneNotification ++ oneDestroy)
    (fun s => 7 ∈ s.timerInfoMap 0 && (s.step onlyClient (.destroyAnswer 0 7)).any fun s' =>
      s'.notifications = [(0, 7)] && (s'.step onlyClient (.notify 0 7)).any fun s'' =>
        s''.notifications = []) (by decide +kernel)
  simp only [Bool.and_eq_true, decide_eq_true_eq, Option.any_eq_true] at hcheck
  obtain ⟨hkept, s', hstep, hsent, s'', hnotify, hnone⟩ := hcheck
  have hreach : s.Reachable onlyClient FreshNumbers := ⟨_, by decide, hrun⟩
  have hfresh : FreshNumbers s' (.notify 0 7) := trivial
  exact ⟨s', s'', hsent, hnone,
    (destroyed_client_silent hreach hkept hstep (Reaches.refl.tail hfresh hnotify)).2⟩

/-- One alarm is set, and the client is called once. -/
theorem ontrigger_once_one :
    ∃ s : Apps, s.onTriggers.length = 1 ∧
      (s.onTriggers.map Request.key).count (0, 7) + s.notifications.count (0, 7) ≤ 1 := by
  obtain ⟨n, s, hrun, hcheck⟩ := @exists_spends_of_costWhen _ _ (Apps.step onlyClient)
    FreshNumbers (Apps.setsOneShot 7) (Apps.init 1000000000) freshNumbers fresh_of_freshNumbers
    (oneNotification ++ [.notify 0 7])
    (fun n s => n = 1 && s.requests = [⟨0, 7, ⟨5, false, 0⟩⟩] && s.onTriggers.length = 1)
    (by decide +kernel)
  simp only [Bool.and_eq_true, decide_eq_true_eq] at hcheck
  obtain ⟨⟨rfl, hrequests⟩, hcalled⟩ := hcheck
  have hmem : (⟨0, 7, ⟨5, false, 0⟩⟩ : Request) ∈ s.requests := by
    rw [hrequests]
    exact List.mem_singleton.mpr rfl
  exact ⟨s, hcalled, ontrigger_once (by decide) hrun hmem rfl⟩

end TimeService
