import TimeService.Lib.Transition
import TimeService.Ntp.UpdateTime
import Mathlib.Data.List.Basic

namespace TimeService

open Transition

/-!
# Automatic time

`NtpUpdateTime` over its runs: the user switches, the timer, the mobile network's time and the
network callback, in any order.  The calls come from several threads and a call of `SetSystemTime`
waits for the server, so its start and its end are two steps, and other calls run between them.

* `auto_time_off`: in the runs whose network callbacks come while automatic time is on, and in
  which it is not switched off under a waiting call, `SetTime` is called only while automatic time
  is on.
-/

/-- `autoTimeInfo`. -/
structure AutoTimeInfo where
  ntpServer : String
  status : String
  lastUpdateTime : ℤ
deriving DecidableEq, Repr

/-- Who has called `SetSystemTime`: `RefreshNetworkTimeByTimer`, `NetCapabilitiesChange` or
    `UpdateStatusOn`. -/
inductive SetSystemTimeCaller
  | timer
  | network
  | switchOn
deriving DecidableEq, Repr

/-- What becomes of the file when `SaveAutoTimeInfoToFile` writes it. -/
inductive FileWrite
  | notOpened
  | complete
  | incomplete
deriving DecidableEq, Repr

/-- `NtpUpdateTime`, with the trusted time, the autotime file (what can be read from it), the system
    time, and the calls of `SetSystemTime` that wait for the server.  `setTimeCalls` collects the
    arguments of the calls of `SetTime`; the code does not keep it. -/
structure NtpUpdateTime where
  autoTimeInfo : AutoTimeInfo
  nitzUpdateTimeMili : UInt64
  mTimeResult : Option TimeResult
  file : Option AutoTimeInfo
  systemTime : SystemTime
  waiting : List SetSystemTimeCaller
  setTimeCalls : List ℤ
deriving DecidableEq

/-- After `Init`, whatever it has read from the file. -/
def NtpUpdateTime.start (autoTimeInfo : AutoTimeInfo) (file : Option AutoTimeInfo)
    (systemTime : SystemTime) : NtpUpdateTime :=
  ⟨autoTimeInfo, 0, none, file, systemTime, [], []⟩

/-! ### The calls -/

/-- `NtpUpdateTime::CheckStatus`. -/
def NtpUpdateTime.checkStatus (s : NtpUpdateTime) : Bool := s.autoTimeInfo.status = "ON"

/-- `NtpUpdateTime::SaveAutoTimeInfoToFile`.  Its answer is always true. -/
def NtpUpdateTime.saveAutoTimeInfoToFile (s : NtpUpdateTime) : FileWrite → NtpUpdateTime
  | .notOpened => s
  | .complete => { s with file := some s.autoTimeInfo }
  | .incomplete => { s with file := none }

/-- What the caller of `SetSystemTime` does after its return. -/
def NtpUpdateTime.afterSetSystemTime (s : NtpUpdateTime) (caller : SetSystemTimeCaller)
    (write : FileWrite) : NtpUpdateTime :=
  match caller with
  | .timer => s.saveAutoTimeInfoToFile write
  | .network => s
  | .switchOn =>
    { s with autoTimeInfo := { s.autoTimeInfo with status := "ON" } }.saveAutoTimeInfoToFile write

/-- `SetSystemTime` up to its wait for the server; a recent NITZ time ends it at once. -/
def NtpUpdateTime.startSetSystemTime (s : NtpUpdateTime) (caller : SetSystemTimeCaller)
    (bootTimeNano : UInt64) (write : FileWrite) : NtpUpdateTime :=
  if isNITZTimeInvalid s.nitzUpdateTimeMili bootTimeNano then s.afterSetSystemTime caller write
  else { s with waiting := s.waiting ++ [caller] }

/-- The rest of `SetSystemTime` when the server has answered or not, with what its caller does
    then. -/
def NtpUpdateTime.finishSetSystemTime (s : NtpUpdateTime) (caller : SetSystemTimeCaller)
    (refresh : NtpRefresh) (curTimezoneId : String) (env : SetTimeEnv) (write : FileWrite) :
    NtpUpdateTime :=
  let refreshed := refreshSystemTime s.mTimeResult refresh curTimezoneId
  let s := { s with mTimeResult := refreshed.1 }
  let s := refreshed.2.elim s fun currentTime =>
    { s with
      systemTime := (s.systemTime.setTime currentTime env).2
      autoTimeInfo := { s.autoTimeInfo with lastUpdateTime := currentTime }
      setTimeCalls := s.setTimeCalls ++ [currentTime] }
  s.afterSetSystemTime caller write

/-- `NtpUpdateTime::UpdateStatusOff`. -/
def NtpUpdateTime.updateStatusOff (s : NtpUpdateTime) (write : FileWrite) : NtpUpdateTime :=
  { s with autoTimeInfo := ⟨"ntp.aliyun.com", "OFF", invalidMillis⟩ }.saveAutoTimeInfoToFile write

/-- `NtpUpdateTime::UpdateStatusOn`. -/
def NtpUpdateTime.updateStatusOn (s : NtpUpdateTime) (bootTimeNano : UInt64) (write : FileWrite) :
    NtpUpdateTime :=
  if s.checkStatus then s else s.startSetSystemTime .switchOn bootTimeNano write

/-- `NtpUpdateTime::RefreshNetworkTimeByTimer`. -/
def NtpUpdateTime.refreshNetworkTimeByTimer (s : NtpUpdateTime) (bootTimeNano : UInt64)
    (write : FileWrite) : NtpUpdateTime :=
  if !s.checkStatus then s else s.startSetSystemTime .timer bootTimeNano write

/-- `NtpUpdateTime::UpdateNITZSetTime`. -/
def NtpUpdateTime.updateNITZSetTime (s : NtpUpdateTime) (bootTimeNano : UInt64) : NtpUpdateTime :=
  { s with nitzUpdateTimeMili := bootTimeNano / 1000000 + 28800000 }

/-- `NetConnCallbackObserver::NetCapabilitiesChange`; `internet` tells whether the capabilities
    contain `NET_CAPABILITY_INTERNET`. -/
def NtpUpdateTime.netCapabilitiesChange (s : NtpUpdateTime) (internet : Bool)
    (bootTimeNano : UInt64) : NtpUpdateTime :=
  if internet then s.startSetSystemTime .network bootTimeNano .notOpened else s

/-- What happens to automatic time.  `finish` lets the waiting call at a place of the list go on. -/
inductive AutoTimeAction
  | updateStatusOff (write : FileWrite)
  | updateStatusOn (bootTimeNano : UInt64) (write : FileWrite)
  | refreshNetworkTimeByTimer (bootTimeNano : UInt64) (write : FileWrite)
  | updateNITZSetTime (bootTimeNano : UInt64)
  | netCapabilitiesChange (internet : Bool) (bootTimeNano : UInt64)
  | finish (place : ℕ) (refresh : NtpRefresh) (curTimezoneId : String) (env : SetTimeEnv)
      (write : FileWrite)

/-- One step. -/
def NtpUpdateTime.step (s : NtpUpdateTime) : AutoTimeAction → Option NtpUpdateTime
  | .updateStatusOff write => some (s.updateStatusOff write)
  | .updateStatusOn bootTimeNano write => some (s.updateStatusOn bootTimeNano write)
  | .refreshNetworkTimeByTimer bootTimeNano write =>
    some (s.refreshNetworkTimeByTimer bootTimeNano write)
  | .updateNITZSetTime bootTimeNano => some (s.updateNITZSetTime bootTimeNano)
  | .netCapabilitiesChange internet bootTimeNano =>
    some (s.netCapabilitiesChange internet bootTimeNano)
  | .finish place refresh curTimezoneId env write =>
    s.waiting[place]?.map fun caller =>
      { s with waiting := s.waiting.eraseIdx place }.finishSetSystemTime caller refresh
        curTimezoneId env write

/-- What a step does: nothing, the start of a call of `SetSystemTime`, or what its name says. -/
inductive NtpUpdateTime.StepCase (s : NtpUpdateTime) : AutoTimeAction → NtpUpdateTime → Prop
  | idle (a : AutoTimeAction) : StepCase s a s
  | updateStatusOff (write : FileWrite) :
      StepCase s (.updateStatusOff write) (s.updateStatusOff write)
  | switchOn (bootTimeNano : UInt64) (write : FileWrite) :
      StepCase s (.updateStatusOn bootTimeNano write)
        (s.startSetSystemTime .switchOn bootTimeNano write)
  | timer (bootTimeNano : UInt64) (write : FileWrite) (hon : s.autoTimeInfo.status = "ON") :
      StepCase s (.refreshNetworkTimeByTimer bootTimeNano write)
        (s.startSetSystemTime .timer bootTimeNano write)
  | network (bootTimeNano : UInt64) :
      StepCase s (.netCapabilitiesChange true bootTimeNano)
        (s.startSetSystemTime .network bootTimeNano .notOpened)
  | updateNITZSetTime (bootTimeNano : UInt64) :
      StepCase s (.updateNITZSetTime bootTimeNano) (s.updateNITZSetTime bootTimeNano)
  | finish (place : ℕ) (refresh : NtpRefresh) (curTimezoneId : String) (env : SetTimeEnv)
      (write : FileWrite) (caller : SetSystemTimeCaller)
      (hcaller : s.waiting[place]? = some caller) :
      StepCase s (.finish place refresh curTimezoneId env write)
        ({ s with waiting := s.waiting.eraseIdx place }.finishSetSystemTime caller refresh
          curTimezoneId env write)

/-- Every step is one of these cases. -/
theorem NtpUpdateTime.stepCase {s s' : NtpUpdateTime} {a : AutoTimeAction}
    (h : s.step a = some s') : s.StepCase a s' := by
  cases a with
  | updateStatusOff write =>
    cases h
    exact .updateStatusOff write
  | updateStatusOn bootTimeNano write =>
    cases h
    unfold NtpUpdateTime.updateStatusOn
    split
    · exact .idle _
    · exact .switchOn bootTimeNano write
  | refreshNetworkTimeByTimer bootTimeNano write =>
    cases h
    unfold NtpUpdateTime.refreshNetworkTimeByTimer
    split
    · exact .idle _
    · rename_i hstatus
      exact .timer bootTimeNano write (by simpa [NtpUpdateTime.checkStatus] using hstatus)
  | updateNITZSetTime bootTimeNano =>
    obtain rfl := Option.some.inj h
    exact .updateNITZSetTime bootTimeNano
  | netCapabilitiesChange internet bootTimeNano =>
    cases h
    cases internet with
    | false => exact .idle _
    | true => exact .network bootTimeNano
  | finish place refresh curTimezoneId env write =>
    obtain ⟨caller, hcaller, rfl⟩ := Option.map_eq_some_iff.mp h
    exact .finish place refresh curTimezoneId env write caller hcaller

/-! ### Automatic time is on -/

/-- Automatic time is on, or a call of `UpdateStatusOn` is under way. -/
def NtpUpdateTime.On (s : NtpUpdateTime) : Prop :=
  s.autoTimeInfo.status = "ON" ∨ .switchOn ∈ s.waiting

/-- The steps that respect the switch: a network callback that gets past the NITZ time comes while
    automatic time is on, and automatic time is switched off when no call of the timer or of the
    network waits for the server. -/
def RespectsSwitch (s : NtpUpdateTime) : AutoTimeAction → Prop
  | .netCapabilitiesChange internet bootTimeNano =>
    internet = true → isNITZTimeInvalid s.nitzUpdateTimeMili bootTimeNano = false → s.On
  | .updateStatusOff _ => ∀ caller ∈ s.waiting, caller = .switchOn
  | _ => True

section
variable (s : NtpUpdateTime)

@[simp] theorem NtpUpdateTime.saveAutoTimeInfoToFile_waiting (write : FileWrite) :
    (s.saveAutoTimeInfoToFile write).waiting = s.waiting := by
  cases write <;> rfl

@[simp] theorem NtpUpdateTime.saveAutoTimeInfoToFile_autoTimeInfo (write : FileWrite) :
    (s.saveAutoTimeInfoToFile write).autoTimeInfo = s.autoTimeInfo := by
  cases write <;> rfl

@[simp] theorem NtpUpdateTime.saveAutoTimeInfoToFile_systemTime (write : FileWrite) :
    (s.saveAutoTimeInfoToFile write).systemTime = s.systemTime := by
  cases write <;> rfl

@[simp] theorem NtpUpdateTime.saveAutoTimeInfoToFile_setTimeCalls (write : FileWrite) :
    (s.saveAutoTimeInfoToFile write).setTimeCalls = s.setTimeCalls := by
  cases write <;> rfl

@[simp] theorem NtpUpdateTime.afterSetSystemTime_waiting (caller : SetSystemTimeCaller)
    (write : FileWrite) : (s.afterSetSystemTime caller write).waiting = s.waiting := by
  cases caller <;> simp [NtpUpdateTime.afterSetSystemTime]

@[simp] theorem NtpUpdateTime.afterSetSystemTime_setTimeCalls (caller : SetSystemTimeCaller)
    (write : FileWrite) : (s.afterSetSystemTime caller write).setTimeCalls = s.setTimeCalls := by
  cases caller <;> simp [NtpUpdateTime.afterSetSystemTime]

/-- Automatic time is on after `UpdateStatusOn`; the other callers leave the switch alone. -/
theorem NtpUpdateTime.afterSetSystemTime_status (caller : SetSystemTimeCaller)
    (write : FileWrite) :
    (s.afterSetSystemTime caller write).autoTimeInfo.status
      = if caller = .switchOn then "ON" else s.autoTimeInfo.status := by
  cases caller <;> simp [NtpUpdateTime.afterSetSystemTime]

/-- The start of a call sets no time. -/
@[simp] theorem NtpUpdateTime.startSetSystemTime_setTimeCalls (caller : SetSystemTimeCaller)
    (bootTimeNano : UInt64) (write : FileWrite) :
    (s.startSetSystemTime caller bootTimeNano write).setTimeCalls = s.setTimeCalls := by
  unfold NtpUpdateTime.startSetSystemTime
  split
  · rw [NtpUpdateTime.afterSetSystemTime_setTimeCalls]
  · rfl

@[simp] theorem NtpUpdateTime.finishSetSystemTime_waiting (caller : SetSystemTimeCaller)
    (refresh : NtpRefresh) (curTimezoneId : String) (env : SetTimeEnv) (write : FileWrite) :
    (s.finishSetSystemTime caller refresh curTimezoneId env write).waiting = s.waiting := by
  unfold NtpUpdateTime.finishSetSystemTime
  rw [NtpUpdateTime.afterSetSystemTime_waiting]
  cases (refreshSystemTime s.mTimeResult refresh curTimezoneId).2 <;> rfl

@[simp] theorem NtpUpdateTime.updateNITZSetTime_waiting (bootTimeNano : UInt64) :
    (s.updateNITZSetTime bootTimeNano).waiting = s.waiting := by
  unfold NtpUpdateTime.updateNITZSetTime
  rfl

@[simp] theorem NtpUpdateTime.updateNITZSetTime_autoTimeInfo (bootTimeNano : UInt64) :
    (s.updateNITZSetTime bootTimeNano).autoTimeInfo = s.autoTimeInfo := by
  unfold NtpUpdateTime.updateNITZSetTime
  rfl

theorem NtpUpdateTime.finishSetSystemTime_status (caller : SetSystemTimeCaller)
    (refresh : NtpRefresh) (curTimezoneId : String) (env : SetTimeEnv) (write : FileWrite) :
    (s.finishSetSystemTime caller refresh curTimezoneId env write).autoTimeInfo.status
      = if caller = .switchOn then "ON" else s.autoTimeInfo.status := by
  unfold NtpUpdateTime.finishSetSystemTime
  rw [NtpUpdateTime.afterSetSystemTime_status]
  cases (refreshSystemTime s.mTimeResult refresh curTimezoneId).2 <;> rfl

end

/-- A waiting call means that automatic time is on: the invariant of the runs that respect the
    switch. -/
def NtpUpdateTime.WaitsOn (s : NtpUpdateTime) : Prop := s.waiting ≠ [] → s.On

/-- A call that starts while automatic time is on, or that switches it on. -/
theorem NtpUpdateTime.WaitsOn.startSetSystemTime {s : NtpUpdateTime} (h : s.WaitsOn)
    {caller : SetSystemTimeCaller} {bootTimeNano : UInt64} (write : FileWrite)
    (hon : isNITZTimeInvalid s.nitzUpdateTimeMili bootTimeNano = false →
      s.On ∨ caller = .switchOn) :
    (s.startSetSystemTime caller bootTimeNano write).WaitsOn := by
  unfold NtpUpdateTime.startSetSystemTime
  split
  · intro hwaiting
    rw [NtpUpdateTime.afterSetSystemTime_waiting] at hwaiting
    unfold NtpUpdateTime.On
    rw [NtpUpdateTime.afterSetSystemTime_status, NtpUpdateTime.afterSetSystemTime_waiting]
    split
    · exact .inl rfl
    · exact h hwaiting
  · rename_i hnitz
    intro _
    show s.autoTimeInfo.status = "ON" ∨ .switchOn ∈ s.waiting ++ [caller]
    rw [List.mem_append, List.mem_singleton]
    rcases hon (by simpa using hnitz) with (hstatus | hmem) | hcaller
    · exact .inl hstatus
    · exact .inr (.inl hmem)
    · exact .inr (.inr hcaller.symm)

/-- The end of a call: `UpdateStatusOn` leaves automatic time on, and another call does not take an
    `UpdateStatusOn` out of the waiting ones. -/
theorem NtpUpdateTime.WaitsOn.finish {s : NtpUpdateTime} (h : s.WaitsOn) {place : ℕ}
    {caller : SetSystemTimeCaller} (hcaller : s.waiting[place]? = some caller)
    (refresh : NtpRefresh) (curTimezoneId : String) (env : SetTimeEnv) (write : FileWrite) :
    ({ s with waiting := s.waiting.eraseIdx place }.finishSetSystemTime caller refresh
      curTimezoneId env write).WaitsOn := by
  intro _
  unfold NtpUpdateTime.On
  rw [NtpUpdateTime.finishSetSystemTime_status, NtpUpdateTime.finishSetSystemTime_waiting]
  by_cases hswitch : caller = .switchOn
  · left
    rw [if_pos hswitch]
  · rw [if_neg hswitch]
    have hne : s.waiting ≠ [] := by
      intro hnil
      rw [hnil] at hcaller
      cases hcaller
    rcases h hne with hstatus | hmem
    · exact .inl hstatus
    · right
      obtain ⟨i, hi⟩ := List.mem_iff_getElem?.mp hmem
      rw [List.mem_eraseIdx_iff_getElem?]
      refine ⟨i, fun heq => hswitch ?_, hi⟩
      rw [heq, hcaller] at hi
      exact Option.some.inj hi

theorem NtpUpdateTime.WaitsOn.step {s s' : NtpUpdateTime} {a : AutoTimeAction} (h : s.WaitsOn)
    (hok : RespectsSwitch s a) (hstep : s.step a = some s') : s'.WaitsOn := by
  cases NtpUpdateTime.stepCase hstep with
  | idle => exact h
  | updateStatusOff write =>
    intro hwaiting
    unfold NtpUpdateTime.updateStatusOff NtpUpdateTime.On at *
    rw [NtpUpdateTime.saveAutoTimeInfoToFile_waiting] at hwaiting ⊢
    -- whoever waits is an `UpdateStatusOn`
    obtain ⟨caller, hmem⟩ := List.exists_mem_of_ne_nil _ hwaiting
    right
    rw [← hok caller hmem]
    exact hmem
  | switchOn bootTimeNano write => exact h.startSetSystemTime write fun _ => .inr rfl
  | timer bootTimeNano write hon => exact h.startSetSystemTime write fun _ => .inl (.inl hon)
  | network bootTimeNano =>
    exact h.startSetSystemTime _ fun hnitz => .inl (hok rfl hnitz)
  | updateNITZSetTime bootTimeNano =>
    intro hwaiting
    rw [NtpUpdateTime.updateNITZSetTime_waiting] at hwaiting
    unfold NtpUpdateTime.On
    rw [NtpUpdateTime.updateNITZSetTime_autoTimeInfo, NtpUpdateTime.updateNITZSetTime_waiting]
    exact h hwaiting
  | finish place refresh curTimezoneId env write caller hcaller =>
    exact h.finish hcaller refresh curTimezoneId env write

/-- Only a waiting call that goes on calls `SetTime`. -/
theorem NtpUpdateTime.step_setTimeCalls {s s' : NtpUpdateTime} {a : AutoTimeAction}
    (hstep : s.step a = some s') (hcall : s'.setTimeCalls ≠ s.setTimeCalls) : s.waiting ≠ [] := by
  cases NtpUpdateTime.stepCase hstep with
  | idle => exact (hcall rfl).elim
  | updateStatusOff write => simp [NtpUpdateTime.updateStatusOff] at hcall
  | switchOn bootTimeNano write => simp at hcall
  | timer bootTimeNano write _ => simp at hcall
  | network bootTimeNano => simp at hcall
  | updateNITZSetTime bootTimeNano =>
    unfold NtpUpdateTime.updateNITZSetTime at hcall
    exact (hcall rfl).elim
  | finish place refresh curTimezoneId env write caller hcaller =>
    intro hnil
    rw [hnil] at hcaller
    cases hcaller

/-- Automatic time is off and nobody waits for the server, with the system time that there is. -/
structure NtpUpdateTime.Quiet (systemTime : SystemTime) (s : NtpUpdateTime) : Prop where
  off : s.autoTimeInfo.status ≠ "ON"
  waiting : s.waiting = []
  unchanged : s.systemTime = systemTime

theorem NtpUpdateTime.Quiet.not_on {systemTime : SystemTime} {s : NtpUpdateTime}
    (h : s.Quiet systemTime) : ¬ s.On := by
  rintro (hstatus | hmem)
  · exact h.off hstatus
  · rw [h.waiting] at hmem
    cases hmem

/-- The steps that are not the user's switching on. -/
def NotSwitchedOn : AutoTimeAction → Prop
  | .updateStatusOn _ _ => False
  | _ => True

/-- Off stays off. -/
theorem NtpUpdateTime.Quiet.step {systemTime : SystemTime} {s s' : NtpUpdateTime}
    {a : AutoTimeAction} (h : s.Quiet systemTime) (hok : RespectsSwitch s a)
    (hnot : NotSwitchedOn a) (hstep : s.step a = some s') : s'.Quiet systemTime := by
  cases NtpUpdateTime.stepCase hstep with
  | idle => exact h
  | updateStatusOff write =>
    unfold NtpUpdateTime.updateStatusOff
    refine ⟨?_, ?_, ?_⟩
    · rw [NtpUpdateTime.saveAutoTimeInfoToFile_autoTimeInfo]
      show "OFF" ≠ "ON"
      decide
    · rw [NtpUpdateTime.saveAutoTimeInfoToFile_waiting]
      exact h.waiting
    · rw [NtpUpdateTime.saveAutoTimeInfoToFile_systemTime]
      exact h.unchanged
  | switchOn bootTimeNano write => exact hnot.elim
  | timer bootTimeNano write hon => exact (h.off hon).elim
  | network bootTimeNano =>
    -- only a recent NITZ time lets a network callback pass, and it ends the call
    unfold NtpUpdateTime.startSetSystemTime
    split
    · exact h
    · rename_i hnitz
      exact (h.not_on (hok rfl (by simpa using hnitz))).elim
  | updateNITZSetTime bootTimeNano =>
    unfold NtpUpdateTime.updateNITZSetTime
    exact ⟨h.off, h.waiting, h.unchanged⟩
  | finish place refresh curTimezoneId env write caller hcaller =>
    rw [h.waiting] at hcaller
    cases hcaller

/-- **Automatic time off.** From every state that `Init` leaves, in every run that respects the
    switch: `SetTime` is called only while automatic time is on or an `UpdateStatusOn` is under way,
    and when neither is the case, no event changes the system time before the next
    `UpdateStatusOn`. -/
theorem auto_time_off (autoTimeInfo : AutoTimeInfo) (file : Option AutoTimeInfo)
    (systemTime : SystemTime) {s : NtpUpdateTime}
    (h : Reaches NtpUpdateTime.step RespectsSwitch (.start autoTimeInfo file systemTime) s) :
    (∀ a s', s.step a = some s' → s'.setTimeCalls ≠ s.setTimeCalls → s.On) ∧
    (¬ s.On → ∀ s',
      Reaches NtpUpdateTime.step (fun t a => RespectsSwitch t a ∧ NotSwitchedOn a) s s' →
      s'.systemTime = s.systemTime) := by
  have hinv : s.WaitsOn :=
    h.invariant (fun _ _ _ ht hok hstep => ht.step hok hstep) fun hne => (hne rfl).elim
  refine ⟨fun a s' hstep hcall => hinv (NtpUpdateTime.step_setTimeCalls hstep hcall), ?_⟩
  intro hoff s' hrun
  have hwaiting : s.waiting = [] := by
    by_contra hne
    exact hoff (hinv hne)
  have hquiet : s'.Quiet s.systemTime :=
    hrun.invariant (fun _ _ _ ht hok hstep => ht.step hok.1 hok.2 hstep)
      ⟨fun hstatus => hoff (.inl hstatus), hwaiting, rfl⟩
  exact hquiet.unchanged

/-! ### A network callback after the switch -/

/-- On a device whose automatic time is on. -/
def autoTimeOn : NtpUpdateTime :=
  .start ⟨"ntp.aliyun.com", "ON", -1⟩ none ⟨⟨1000, 0⟩, true, []⟩

/-- After `UpdateStatusOff` has returned, the network callback sets the clock. -/
theorem auto_time_ignored :
    ∃ s s', Reaches NtpUpdateTime.step (fun _ _ => True) autoTimeOn s ∧
      s.step (.finish 0 refreshAt1683325312 "Asia/Shanghai" setTimeServed .notOpened) = some s' ∧
      s'.setTimeCalls ≠ s.setTimeCalls ∧ ¬ s.On ∧
      s'.systemTime.realtime = ⟨1683354112, 0⟩ ∧ s.systemTime.realtime = ⟨1000, 0⟩ := by
  have hwaiting : ((autoTimeOn.updateStatusOff .complete).netCapabilitiesChange true 0).waiting
      = [.network] := by decide +kernel
  obtain ⟨s', hs', hcheck⟩ : ∃ s', ((autoTimeOn.updateStatusOff .complete).netCapabilitiesChange
      true 0).step (.finish 0 refreshAt1683325312 "Asia/Shanghai" setTimeServed .notOpened)
        = some s' ∧
      (s'.setTimeCalls = [1683354112000] ∧ s'.systemTime.realtime = ⟨1683354112, 0⟩) := by
    refine ⟨_, rfl, ?_⟩
    decide +kernel
  have hoff : Reaches NtpUpdateTime.step (fun _ _ => True) autoTimeOn
      (autoTimeOn.updateStatusOff .complete) :=
    Reaches.refl.tail trivial (a := .updateStatusOff .complete) rfl
  refine ⟨_, s', hoff.tail trivial (a := .netCapabilitiesChange true 0) rfl, hs', ?_, ?_,
    hcheck.2, by decide +kernel⟩
  · rw [hcheck.1]
    decide +kernel
  · rintro (hstatus | hmem)
    · revert hstatus
      decide +kernel
    · rw [hwaiting] at hmem
      revert hmem
      decide

/-- The timer's call on the same device is made while automatic time is on. -/
theorem auto_time_off_timer :
    (autoTimeOn.refreshNetworkTimeByTimer 0 .complete).waiting = [.timer] ∧
    ∀ a s', (autoTimeOn.refreshNetworkTimeByTimer 0 .complete).step a = some s' →
      s'.setTimeCalls ≠ (autoTimeOn.refreshNetworkTimeByTimer 0 .complete).setTimeCalls →
      (autoTimeOn.refreshNetworkTimeByTimer 0 .complete).On :=
  ⟨by decide +kernel,
    (auto_time_off ⟨"ntp.aliyun.com", "ON", -1⟩ none ⟨⟨1000, 0⟩, true, []⟩
      (Reaches.refl.tail trivial (a := .refreshNetworkTimeByTimer 0 .complete) rfl)).1⟩

end TimeService
