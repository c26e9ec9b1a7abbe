import TimeService.Ntp.AutoTimeRecord
import TimeService.Service.DumpCommands
import TimeService.Timer.Agreement

namespace TimeService

/-!
# Start and stop of the service

`TimeService::OnStart`, `OnStop` and the delayed `Init` that is posted when `Publish` fails, with
the timer that `NtpUpdateTime::Init` creates and the dump commands that `InitDumpCmd` registers.

* `lifecycle_sound_iff`: the runs in which there is at most one NTP timer, which is the one that
  `NtpUpdateTime` knows, and in which a running service has its dump commands.
-/

/-- `ServiceRunningState`. -/
inductive ServiceRunningState
  | notStart
  | running
deriving DecidableEq, Repr

/-- The function object of `NtpUpdateTime::Init` that calls `RefreshNetworkTimeByTimer`. -/
def ntpCallback : Callback := some 0

/-- `TimeService` with what it starts: `state_`, whether there is a `serviceHandler_`, the tasks
    posted to it, `timerManagerHandler_`, `NtpUpdateTime` with its `timerId_`, and the commands of
    `TimeCmdDispatcher`. -/
structure ServiceState where
  state : ServiceRunningState
  serviceHandler : Bool
  postedInits : ℕ
  timerManagerHandler : Option System
  ntp : NtpUpdateTime
  timerId : UInt64
  cmdHandler : CmdHandler

/-- A new process; `timerId_` has no initial value. -/
def ServiceState.start (ntp : NtpUpdateTime) (timerId : UInt64) : ServiceState :=
  ⟨.notStart, false, 0, none, ntp, timerId, []⟩

/-- What `OnStart` meets: the boot times at which `InitTimerHandler` and `CreateTimer` can create a
    manager, if they can, what becomes of the autotime file, the number drawn for the timer, and the
    answer of `Publish`. -/
structure OnStartEnv where
  handlerCreated : Option ℤ
  callCreated : Option ℤ
  write : FileWrite
  timerNumber : { n : UInt64 // n ≠ 0 }
  published : Bool

/-! ### The calls -/

/-- `TimeService::InitServiceHandler`. -/
def ServiceState.initServiceHandler (s : ServiceState) : ServiceState :=
  if s.serviceHandler then s else { s with serviceHandler := true }

/-- `TimeService::InitTimerHandler`. -/
def ServiceState.initTimerHandler (s : ServiceState) (created : Option ℤ) : ServiceState :=
  if s.timerManagerHandler.isSome then s
  else { s with timerManagerHandler := created.map System.init }

/-- The call of `TimeService::CreateTimer` in `NtpUpdateTime::Init`, for an `ELAPSED_REALTIME` timer
    with an interval of a day. -/
def ServiceState.createNtpTimer (s : ServiceState) (created : Option ℤ)
    (timerNumber : { n : UInt64 // n ≠ 0 }) : ServiceState :=
  match s.timerManagerHandler.orElse fun _ => created.map System.init with
  -- `INVALID_TIMER_ID`
  | none => { s with timerId := 0 }
  | some manager =>
    { s with
      timerManagerHandler := some (manager.createTimer timerNumber.1.toNat
        TimerType.elapsedRealtime.value 0 86400000 0 ntpCallback 0)
      timerId := timerNumber.1 }

/-- `NtpUpdateTime::Init`.  That the new timer is started is left to the manager's steps. -/
def ServiceState.initNtpUpdateTime (s : ServiceState) (env : OnStartEnv) : ServiceState :=
  let started := s.ntp.init env.write
  let s := { s with ntp := started.2 }
  if started.1 then s.createNtpTimer env.callCreated env.timerNumber else s

/-- `TimeService::Init`; the answer is `published`. -/
def ServiceState.init (s : ServiceState) (published : Bool) : ServiceState :=
  if published then { s with state := .running } else s

/-- The initialisers of `OnStart` before `Init`. -/
def ServiceState.initialise (s : ServiceState) (env : OnStartEnv) : ServiceState :=
  (s.initServiceHandler.initTimerHandler env.handlerCreated).initNtpUpdateTime env

/-- `TimeService::OnStart`. -/
def ServiceState.onStart (s : ServiceState) (env : OnStartEnv) : ServiceState :=
  if s.state = .running then s else
  let s := (s.initialise env).init env.published
  -- behind a failed `Init` the commands are not registered
  if env.published then { s with cmdHandler := s.cmdHandler.initDumpCmd }
  else { s with postedInits := s.postedInits + 1 }

/-- A posted task. -/
def ServiceState.runPosted (s : ServiceState) (published : Bool) : ServiceState :=
  if s.postedInits = 0 then s
  -- the task is `Init` alone
  else { s with postedInits := s.postedInits - 1 }.init published

/-- `TimeService::OnStop`; `discarded` tells whether the posted tasks go with their handler. -/
def ServiceState.onStop (s : ServiceState) (discarded : Bool) : ServiceState :=
  if s.state ≠ .running then s
  -- the NTP timer and the commands stay
  else { s with
    serviceHandler := false
    postedInits := if discarded then 0 else s.postedInits
    state := .notStart }

/-- The function object of a timer that is created. -/
def Action.newCallback : Action → Callback
  | .createTimer _ _ _ _ _ callback _ => callback
  | _ => none

/-- What happens to the service; `timers` is a step of the manager that does not create an NTP
    timer. -/
inductive ServiceAction
  | onStart (env : OnStartEnv)
  | runPosted (published : Bool)
  | onStop (discarded : Bool)
  | timers (a : Action)

/-- A step. -/
def ServiceState.step (s : ServiceState) : ServiceAction → ServiceState
  | .onStart env => s.onStart env
  | .runPosted published => s.runPosted published
  | .onStop discarded => s.onStop discarded
  | .timers a =>
    if a.newCallback = ntpCallback then s
    else { s with
      timerManagerHandler := s.timerManagerHandler.map fun manager =>
        (manager.step a).getD manager }

/-! ### What is wanted -/

/-- The manager has an NTP timer with this id. -/
def System.HasNtpTimer (manager : System) (id : ℕ) : Prop :=
  ∃ entry, manager.timerEntryMap.lookup id = some entry ∧ entry.callback = ntpCallback

/-- An NTP timer with this id is live. -/
def ServiceState.NtpLive (s : ServiceState) (id : ℕ) : Prop :=
  ∃ manager, s.timerManagerHandler = some manager ∧ manager.HasNtpTimer id

/-- The commands of `InitDumpCmd` are registered. -/
def CmdHandler.Registered (cmdHandler : CmdHandler) : Prop :=
  ∀ cmd ∈ [cmdTime, cmdTimerAll, cmdTimerInfo, cmdTimerTrigger],
    cmdHandler.lookup cmd.getOption = some cmd

/-- No NTP timer is live but the one of `timerId_`, and a running service has its commands. -/
structure ServiceState.Sound (s : ServiceState) : Prop where
  ntpTimer : ∀ id, s.NtpLive id → id = s.timerId.toNat
  commands : s.state = .running → s.cmdHandler.Registered

/-- The condition on a step: a start of a stopped service that creates an NTP timer finds none that
    is live, or draws its id again; and a posted task publishes the service only when the commands
    are registered. -/
def StartsAfresh (s : ServiceState) : ServiceAction → Prop
  | .onStart env => s.state ≠ .running → (s.ntp.init env.write).1 = true →
    ∀ id, s.NtpLive id → id = env.timerNumber.1.toNat
  | .runPosted published => s.postedInits ≠ 0 → published = true → s.cmdHandler.Registered
  | _ => True

/-- The commands are registered all or none: the invariant of all runs. -/
def ServiceState.AllOrNoCommands (s : ServiceState) : Prop :=
  s.cmdHandler = [] ∨ s.cmdHandler = CmdHandler.initDumpCmd []

/-! ### The timers -/

/-- An entry is created with the callback of its creation, and does not change. -/
theorem System.lookup_of_step {s s' : System} {a : Action} (h : s.step a = some s') {id : ℕ}
    {entry : TimerEntry} (hentry : s'.timerEntryMap.lookup id = some entry)
    (hnew : a.newCallback ≠ entry.callback) : s.timerEntryMap.lookup id = some entry := by
  -- only `CreateTimer` and the end of `DestroyTimer` touch the table
  cases System.stepCase h with
  | create randoms type windowLength interval flag callback uid timerNumber _ _ _ =>
    rw [System.createTimer_lookup] at hentry
    split at hentry
    · rw [← Option.some.inj hentry] at hnew
      exact (hnew rfl).elim
    · exact hentry
  | finish timerNumber needDestroy _ =>
    by_cases hid : id = timerNumber
    · cases needDestroy with
      | false => exact hentry
      | true =>
        have hgone : (s.timerEntryMap.erase timerNumber).lookup id = some entry := hentry
        rw [hid, AList.lookup_erase] at hgone
        cases hgone
    · rwa [lookup_finishStop hid] at hentry
  | _ => exact hentry

/-- The NTP timers after `CreateTimer` for one. -/
theorem System.hasNtpTimer_createTimer_iff {s : System} {timerNumber : ℕ} {type : ℤ}
    {windowLength interval : ℕ} {flag uid : ℤ} {id : ℕ} :
    (s.createTimer timerNumber type windowLength interval flag ntpCallback uid).HasNtpTimer id
      ↔ (id = timerNumber ∧ timerNumber ∉ s.timerEntryMap) ∨ s.HasNtpTimer id := by
  unfold System.HasNtpTimer
  rw [System.createTimer_lookup]
  split
  · rename_i hnew
    exact iff_of_true ⟨_, rfl, rfl⟩ (.inl hnew)
  · rename_i hold
    exact ⟨.inr, fun h => h.resolve_left hold⟩

/-- A new manager has no timer. -/
theorem System.not_hasNtpTimer_init (bootTime : ℤ) (id : ℕ) :
    ¬ (System.init bootTime).HasNtpTimer id := by
  rintro ⟨entry, hentry, _⟩
  have hempty : (System.init bootTime).timerEntryMap.lookup id = none := AList.lookup_empty id
  rw [hempty] at hentry
  cases hentry

/-- Other steps of the manager make no NTP timer. -/
theorem System.HasNtpTimer.of_step {s s' : System} {a : Action} (h : s.step a = some s')
    (hnew : a.newCallback ≠ ntpCallback) {id : ℕ} (hid : s'.HasNtpTimer id) :
    s.HasNtpTimer id := by
  obtain ⟨entry, hentry, hcallback⟩ := hid
  refine ⟨entry, System.lookup_of_step h hentry ?_, hcallback⟩
  rw [hcallback]
  exact hnew

theorem ServiceState.ntpLive_iff (s : ServiceState) {manager : System}
    (h : s.timerManagerHandler = some manager) (id : ℕ) :
    s.NtpLive id ↔ manager.HasNtpTimer id := by
  unfold ServiceState.NtpLive
  rw [h]
  simp

theorem ServiceState.not_ntpLive {s : ServiceState} (h : s.timerManagerHandler = none) (id : ℕ) :
    ¬ s.NtpLive id := by
  rintro ⟨manager, hmanager, _⟩
  rw [h] at hmanager
  cases hmanager

/-- `InitServiceHandler` and `InitTimerHandler` create what is missing. -/
theorem ServiceState.initHandlers_eq (s : ServiceState) (created : Option ℤ) :
    s.initServiceHandler.initTimerHandler created
      = { s with
          serviceHandler := true
          timerManagerHandler :=
            s.timerManagerHandler.orElse fun _ => created.map System.init } := by
  obtain ⟨state, serviceHandler, postedInits, timerManagerHandler, ntp, timerId, cmdHandler⟩ := s
  cases serviceHandler <;> cases timerManagerHandler <;> rfl

/-- The manager is created with an empty table, so the NTP timers are those there were. -/
theorem ServiceState.ntpLive_initHandlers_iff (s : ServiceState) (created : Option ℤ) (id : ℕ) :
    (s.initServiceHandler.initTimerHandler created).NtpLive id ↔ s.NtpLive id := by
  rw [s.initHandlers_eq]
  cases hmanager : s.timerManagerHandler with
  | some manager => exact (ServiceState.ntpLive_iff _ rfl id).trans (s.ntpLive_iff hmanager id).symm
  | none =>
    refine iff_of_false ?_ (ServiceState.not_ntpLive hmanager id)
    rintro ⟨manager, hcreated, hid⟩
    have hmap : created.map System.init = some manager := hcreated
    obtain ⟨bootTime, _, rfl⟩ := Option.map_eq_some_iff.mp hmap
    exact System.not_hasNtpTimer_init bootTime id hid

/-- **A new NTP timer.** It is the only one, and known, exactly when no other is live. -/
theorem ServiceState.createNtpTimer_iff (s : ServiceState) (created : Option ℤ)
    (timerNumber : { n : UInt64 // n ≠ 0 }) :
    (∀ id, (s.createNtpTimer created timerNumber).NtpLive id →
        id = (s.createNtpTimer created timerNumber).timerId.toNat)
      ↔ ∀ id, s.NtpLive id → id = timerNumber.1.toNat := by
  unfold ServiceState.createNtpTimer
  cases hmanager : s.timerManagerHandler with
  | some manager =>
    have hlive := s.ntpLive_iff hmanager
    simp only [Option.orElse_some]
    constructor
    · intro h id hid
      exact h id (((ServiceState.ntpLive_iff _ rfl id).trans
        System.hasNtpTimer_createTimer_iff).mpr (.inr ((hlive id).mp hid)))
    · intro h id hid
      rcases ((ServiceState.ntpLive_iff _ rfl id).trans
        System.hasNtpTimer_createTimer_iff).mp hid with ⟨hnew, _⟩ | hold
      · exact hnew
      · exact h id ((hlive id).mpr hold)
  | none =>
    refine iff_of_true ?_ fun id hid => (ServiceState.not_ntpLive hmanager id hid).elim
    cases created with
    | none => exact fun id hid => (ServiceState.not_ntpLive rfl id hid).elim
    | some bootTime =>
      intro id hid
      rcases ((ServiceState.ntpLive_iff _ rfl id).trans
        System.hasNtpTimer_createTimer_iff).mp hid with ⟨hnew, _⟩ | hold
      · exact hnew
      · exact (System.not_hasNtpTimer_init bootTime id hold).elim

/-! ### The commands -/

/-- All commands are found after `InitDumpCmd`. -/
theorem registered_initDumpCmd : (CmdHandler.initDumpCmd []).Registered := by
  unfold CmdHandler.Registered
  decide +kernel

/-- To register the commands again changes nothing. -/
theorem initDumpCmd_initDumpCmd :
    (CmdHandler.initDumpCmd []).initDumpCmd = CmdHandler.initDumpCmd [] := by
  decide +kernel

/-- `InitDumpCmd` in a run. -/
theorem ServiceState.AllOrNoCommands.initDumpCmd {s : ServiceState} (h : s.AllOrNoCommands) :
    s.cmdHandler.initDumpCmd = CmdHandler.initDumpCmd [] := by
  rcases h with hnone | hall
  · rw [hnone]
  · rw [hall, initDumpCmd_initDumpCmd]

/-! ### The start -/

section
variable (s : ServiceState) (env : OnStartEnv)

/-- `NtpUpdateTime::Init` leaves the state and the commands alone. -/
theorem ServiceState.initNtpUpdateTime_frame :
    (s.initNtpUpdateTime env).state = s.state ∧
      (s.initNtpUpdateTime env).cmdHandler = s.cmdHandler := by
  unfold ServiceState.initNtpUpdateTime ServiceState.createNtpTimer
  simp only
  split
  · split <;> exact ⟨rfl, rfl⟩
  · exact ⟨rfl, rfl⟩

/-- The initialisers leave the state and the commands alone. -/
theorem ServiceState.initialise_frame :
    (s.initialise env).state = s.state ∧ (s.initialise env).cmdHandler = s.cmdHandler := by
  unfold ServiceState.initialise
  rw [s.initHandlers_eq]
  exact ServiceState.initNtpUpdateTime_frame _ env

/-- The NTP timers after the initialisers. -/
theorem ServiceState.initialise_ntpTimer_iff (h : ∀ id, s.NtpLive id → id = s.timerId.toNat) :
    (∀ id, (s.initialise env).NtpLive id → id = (s.initialise env).timerId.toNat) ↔
      ((s.ntp.init env.write).1 = true → ∀ id, s.NtpLive id → id = env.timerNumber.1.toNat) := by
  have hlive := s.ntpLive_initHandlers_iff env.handlerCreated
  have hid : (s.initServiceHandler.initTimerHandler env.handlerCreated).timerId = s.timerId := by
    rw [s.initHandlers_eq]
  have hntp : (s.initServiceHandler.initTimerHandler env.handlerCreated).ntp = s.ntp := by
    rw [s.initHandlers_eq]
  unfold ServiceState.initialise ServiceState.initNtpUpdateTime
  simp only [hntp]
  by_cases hinit : (s.ntp.init env.write).1 = true
  · rw [if_pos hinit, ServiceState.createNtpTimer_iff]
    constructor
    · exact fun hall _ id hs => hall id ((hlive id).mpr hs)
    · exact fun hall id hs => hall hinit id ((hlive id).mp hs)
  · rw [if_neg hinit]
    refine iff_of_true (fun id hs => ?_) fun hyes => absurd hyes hinit
    show id = (s.initServiceHandler.initTimerHandler env.handlerCreated).timerId.toNat
    rw [hid]
    exact h id ((hlive id).mp hs)

end

/-- **A start.** A stopped service starts soundly exactly when it makes no second NTP timer. -/
theorem ServiceState.Sound.onStart_iff {s : ServiceState} (h : s.Sound) (hall : s.AllOrNoCommands)
    (env : OnStartEnv) : (s.onStart env).Sound ↔ StartsAfresh s (.onStart env) := by
  by_cases hrunning : s.state = .running
  · have hstep : s.onStart env = s := if_pos hrunning
    rw [hstep]
    exact iff_of_true h fun hstopped => absurd hrunning hstopped
  · have hntp := s.initialise_ntpTimer_iff env h.ntpTimer
    have hframe := s.initialise_frame env
    have hstep : (s.onStart env).Sound ↔
        ∀ id, (s.initialise env).NtpLive id → id = (s.initialise env).timerId.toNat := by
      unfold ServiceState.onStart
      rw [if_neg hrunning]
      cases hpublished : env.published with
      | true =>
        refine ⟨fun hs => hs.ntpTimer, fun hs => ⟨hs, fun _ => ?_⟩⟩
        show (s.initialise env).cmdHandler.initDumpCmd.Registered
        rw [hframe.2, hall.initDumpCmd]
        exact registered_initDumpCmd
      | false =>
        refine ⟨fun hs => hs.ntpTimer, fun hs => ⟨hs, fun hstate => ?_⟩⟩
        have hstopped : (s.initialise env).state = .running := hstate
        rw [hframe.1] at hstopped
        exact absurd hstopped hrunning
    rw [hstep, hntp]
    exact ⟨fun hs _ => hs, fun hs => hs hrunning⟩

/-- **A posted task.** It publishes the service soundly exactly when the commands are there. -/
theorem ServiceState.Sound.runPosted_iff {s : ServiceState} (h : s.Sound) (published : Bool) :
    (s.runPosted published).Sound ↔ StartsAfresh s (.runPosted published) := by
  unfold ServiceState.runPosted
  by_cases hposted : s.postedInits = 0
  · rw [if_pos hposted]
    exact iff_of_true h fun hne => absurd hposted hne
  · rw [if_neg hposted]
    cases published with
    | true =>
      constructor
      · exact fun hs _ _ => hs.commands rfl
      · exact fun hs => ⟨h.ntpTimer, fun _ => hs hposted rfl⟩
    | false => exact iff_of_true ⟨h.ntpTimer, h.commands⟩ fun _ hyes => by cases hyes

theorem ServiceState.Sound.onStop {s : ServiceState} (h : s.Sound) (discarded : Bool) :
    (s.onStop discarded).Sound := by
  unfold ServiceState.onStop
  split
  · exact h
  · exact ⟨h.ntpTimer, fun hstate => by cases hstate⟩

theorem ServiceState.Sound.timers {s : ServiceState} (h : s.Sound) (a : Action) :
    (s.step (.timers a)).Sound := by
  by_cases hnew : a.newCallback = ntpCallback
  · have hstep : s.step (.timers a) = s := if_pos hnew
    rw [hstep]
    exact h
  · have hstep : s.step (.timers a) = { s with
        timerManagerHandler := s.timerManagerHandler.map fun manager =>
          (manager.step a).getD manager } := if_neg hnew
    rw [hstep]
    refine ⟨fun id hid => h.ntpTimer id ?_, h.commands⟩
    obtain ⟨manager', hmanager', hid'⟩ := hid
    obtain ⟨manager, hmanager, rfl⟩ := Option.map_eq_some_iff.mp hmanager'
    refine ⟨manager, hmanager, ?_⟩
    cases hmove : manager.step a with
    | none =>
      rw [hmove] at hid'
      exact hid'
    | some next =>
      rw [hmove] at hid'
      exact hid'.of_step hmove hnew

/-- One step. -/
theorem ServiceState.Sound.step_iff {s : ServiceState} (h : s.Sound) (hall : s.AllOrNoCommands)
    (a : ServiceAction) : (s.step a).Sound ↔ StartsAfresh s a := by
  cases a with
  | onStart env => exact h.onStart_iff hall env
  | runPosted published => exact h.runPosted_iff published
  | onStop discarded => exact iff_of_true (h.onStop discarded) trivial
  | timers a => exact iff_of_true (h.timers a) trivial

/-- Only `InitDumpCmd` registers commands. -/
theorem ServiceState.AllOrNoCommands.step {s : ServiceState} (h : s.AllOrNoCommands)
    (a : ServiceAction) : (s.step a).AllOrNoCommands := by
  have hsame {t : ServiceState} (ht : t.cmdHandler = s.cmdHandler) : t.AllOrNoCommands := by
    unfold ServiceState.AllOrNoCommands
    rw [ht]
    exact h
  cases a with
  | onStart env =>
    have hframe := (s.initialise_frame env).2
    show (s.onStart env).AllOrNoCommands
    unfold ServiceState.onStart
    split
    · exact h
    · cases hpublished : env.published with
      | true =>
        right
        show (s.initialise env).cmdHandler.initDumpCmd = _
        rw [hframe, h.initDumpCmd]
      | false => exact hsame hframe
  | runPosted published =>
    show (s.runPosted published).AllOrNoCommands
    unfold ServiceState.runPosted
    split
    · exact h
    · cases published <;> exact hsame rfl
  | onStop discarded =>
    show (s.onStop discarded).AllOrNoCommands
    unfold ServiceState.onStop
    split <;> exact hsame rfl
  | timers a =>
    unfold ServiceState.step
    simp only
    split <;> exact hsame rfl

/-- **Restarts.** From the start of the process, over every sequence of starts, posted tasks and
    stops, and whatever the manager does between them, with every answer of `Publish`: in all states
    at most one NTP timer is live, its id is `timerId_`, and a running service has its dump
    commands, exactly when every step of the sequence starts afresh. -/
theorem lifecycle_sound_iff (ntp : NtpUpdateTime) (timerId : UInt64)
    (actions : List ServiceAction) :
    (∀ t ∈ Run.states ServiceState.step (.start ntp timerId) actions, t.Sound) ↔
      Run.Along ServiceState.step StartsAfresh (.start ntp timerId) actions := by
  have hnone : (ServiceState.start ntp timerId).AllOrNoCommands := .inl rfl
  refine Run.forall_states_iff hnone ⟨?_, ?_⟩ (fun t a ht => ht.step a) fun t a hall ht =>
    ht.step_iff hall a
  · exact fun id hid => (ServiceState.not_ntpLive rfl id hid).elim
  · intro hstate
    cases hstate

/-- A start at which everything succeeds, with the number drawn for the NTP timer. -/
def startWith (timerNumber : { n : UInt64 // n ≠ 0 }) (published : Bool) : OnStartEnv :=
  ⟨some 1, none, .complete, timerNumber, published⟩

/-- A start after a stop makes a second NTP timer; a start whose `Publish` fails at first leads to a
    running service without dump commands. -/
theorem lifecycle_unsound :
    (∃ t ∈ Run.states ServiceState.step (.start autoTimeOn 0)
        [.onStart (startWith ⟨7, by decide⟩ true), .onStop true,
          .onStart (startWith ⟨8, by decide⟩ true)],
      t.NtpLive 7 ∧ t.NtpLive 8) ∧
    ∃ t ∈ Run.states ServiceState.step (.start autoTimeOn 0)
        [.onStart (startWith ⟨7, by decide⟩ false), .runPosted true],
      t.state = .running ∧ t.cmdHandler = [] := by
  constructor
  · refine ⟨_, .tail _ (.tail _ (.tail _ (.head _))), ?_, ?_⟩
    · exact ⟨_, rfl, _, rfl, rfl⟩
    · exact ⟨_, rfl, _, rfl, rfl⟩
  · exact ⟨_, .tail _ (.tail _ (.head _)), rfl, rfl⟩

end TimeService
