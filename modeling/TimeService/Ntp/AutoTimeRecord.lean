import TimeService.Lib.Run
import TimeService.Ntp.AutoTime

namespace TimeService

/-!
# The recorded automatic time

`autoTimeInfo_` and the autotime file over runs of calls that come one after another: `Init`, the
user's switch, the timer and the network callback.  The file can be written, and the NTP requests
and `SetTime` succeed or fail.

* `autoTimeRecord_true_iff`: the runs in which the record is always true and always stored.
-/

/-- What a call of `SetSystemTime` meets. -/
structure SetSystemTimeEnv where
  bootTimeNano : UInt64
  refresh : NtpRefresh
  curTimezoneId : String
  setTime : SetTimeEnv
deriving DecidableEq

/-- `NtpUpdateTime::Init` up to the registration of the network callback; the answer tells whether
    it comes so far. -/
def NtpUpdateTime.init (s : NtpUpdateTime) (write : FileWrite) : Bool × NtpUpdateTime :=
  match s.file with
  | some info => (true, { s with autoTimeInfo := info })
  | none =>
    let info : AutoTimeInfo := ⟨"ntp.aliyun.com", "ON", invalidMillis⟩
    let s := { s with autoTimeInfo := info }.saveAutoTimeInfoToFile write
    -- the file is read again
    match s.file with
    | some info => (true, { s with autoTimeInfo := info })
    | none => (false, s)

/-- A call of `SetSystemTime` for which no other call interferes, with what its caller does then. -/
def NtpUpdateTime.wholeSetSystemTime (s : NtpUpdateTime) (caller : SetSystemTimeCaller)
    (env : SetSystemTimeEnv) : NtpUpdateTime :=
  if isNITZTimeInvalid s.nitzUpdateTimeMili env.bootTimeNano then
    s.afterSetSystemTime caller .complete
  else s.finishSetSystemTime caller env.refresh env.curTimezoneId env.setTime .complete

/-- The argument of the call of `SetTime`, if `SetSystemTime` comes so far. -/
def NtpUpdateTime.newTime (s : NtpUpdateTime) (env : SetSystemTimeEnv) : Option ℤ :=
  (setSystemTime s.nitzUpdateTimeMili env.bootTimeNano s.mTimeResult env.refresh
    env.curTimezoneId).2

/-- `NtpUpdateTime`, with the arguments of the calls of `SetTime` that have succeeded; the code does
    not keep these. -/
structure AutoTimeHistory where
  ntp : NtpUpdateTime
  successes : List ℤ
deriving DecidableEq

/-- A call of `SetSystemTime`, with its caller. -/
def AutoTimeHistory.setSystemTime (s : AutoTimeHistory) (caller : SetSystemTimeCaller)
    (env : SetSystemTimeEnv) : AutoTimeHistory where
  ntp := s.ntp.wholeSetSystemTime caller env
  successes := s.successes ++ ((s.ntp.newTime env).filter fun time =>
    (s.ntp.systemTime.setTime time env.setTime).1.isOk).toList

/-- The calls. -/
inductive AutoTimeCall
  | init
  | updateStatusOn (env : SetSystemTimeEnv)
  | updateStatusOff
  | refreshNetworkTimeByTimer (env : SetSystemTimeEnv)
  | netCapabilitiesChange (internet : Bool) (env : SetSystemTimeEnv)
  | updateNITZSetTime (bootTimeNano : UInt64)
deriving DecidableEq

/-- A call. -/
def AutoTimeHistory.step (s : AutoTimeHistory) : AutoTimeCall → AutoTimeHistory
  | .init => { s with ntp := (s.ntp.init .complete).2 }
  | .updateStatusOn env => if s.ntp.checkStatus then s else s.setSystemTime .switchOn env
  | .updateStatusOff => { s with ntp := s.ntp.updateStatusOff .complete }
  | .refreshNetworkTimeByTimer env => if !s.ntp.checkStatus then s else s.setSystemTime .timer env
  -- the callback does not look at the switch
  | .netCapabilitiesChange internet env => if internet then s.setSystemTime .network env else s
  | .updateNITZSetTime bootTimeNano => { s with ntp := s.ntp.updateNITZSetTime bootTimeNano }

/-- A call of `SetSystemTime` without interference is its start and its end. -/
theorem NtpUpdateTime.wholeSetSystemTime_eq (s : NtpUpdateTime) (caller : SetSystemTimeCaller)
    (env : SetSystemTimeEnv) (hidle : s.waiting = []) :
    let started := s.startSetSystemTime caller env.bootTimeNano .complete
    some (s.wholeSetSystemTime caller env)
      = if isNITZTimeInvalid s.nitzUpdateTimeMili env.bootTimeNano then some started
        else started.step (.finish 0 env.refresh env.curTimezoneId env.setTime .complete) := by
  intro started
  by_cases hnitz : isNITZTimeInvalid s.nitzUpdateTimeMili env.bootTimeNano = true
  · have hstarted : started = s.afterSetSystemTime caller .complete := if_pos hnitz
    rw [if_pos hnitz, hstarted]
    simp [NtpUpdateTime.wholeSetSystemTime, hnitz]
  · have hstarted : started = { s with waiting := [caller] } := by
      show s.startSetSystemTime caller env.bootTimeNano .complete = _
      simp [NtpUpdateTime.startSetSystemTime, hnitz, hidle]
    have hback : { s with waiting := [] } = s := by rw [← hidle]
    rw [if_neg hnitz, hstarted]
    show some (s.wholeSetSystemTime caller env)
      = some ({ s with waiting := [] }.finishSetSystemTime caller _ _ _ _)
    rw [hback]
    simp [NtpUpdateTime.wholeSetSystemTime, hnitz]

/-! ### The record -/

/-- The recorded time is none, or one to which `SetTime` has set the clock. -/
def AutoTimeHistory.Known (s : AutoTimeHistory) (time : ℤ) : Prop :=
  time = invalidMillis ∨ time ∈ s.successes

/-- The record is true, and the file holds it. -/
structure RecordTrue (s : AutoTimeHistory) : Prop where
  known : s.Known s.ntp.autoTimeInfo.lastUpdateTime
  stored : s.ntp.file = some s.ntp.autoTimeInfo

/-- The call of `SetTime`, if there is one, succeeds, or its argument is known already. -/
def AutoTimeHistory.ServedOrKnown (s : AutoTimeHistory) (env : SetSystemTimeEnv) : Prop :=
  ∀ time, s.ntp.newTime env = some time →
    (env.setTime.Sets time ∧ ¬ env.setTime.rtc.Fails) ∨ s.Known time

/-- The condition on a call: what the timer and `UpdateStatusOn` hand to `SetTime` is served or
    known, and what the network callback hands to it is recorded already. -/
def RecordsTruth (s : AutoTimeHistory) : AutoTimeCall → Prop
  | .updateStatusOn env => s.ntp.checkStatus = false → s.ServedOrKnown env
  | .refreshNetworkTimeByTimer env => s.ntp.checkStatus = true → s.ServedOrKnown env
  | .netCapabilitiesChange internet env => internet = true →
    ∀ time, s.ntp.newTime env = some time → time = s.ntp.autoTimeInfo.lastUpdateTime
  | _ => True

section
variable (s : NtpUpdateTime) (caller : SetSystemTimeCaller) (env : SetSystemTimeEnv)

/-- `autoTimeInfo_` after the caller's part. -/
theorem NtpUpdateTime.afterSetSystemTime_autoTimeInfo (write : FileWrite) :
    (s.afterSetSystemTime caller write).autoTimeInfo
      = { s.autoTimeInfo with
          status := if caller = .switchOn then "ON" else s.autoTimeInfo.status } := by
  cases caller <;> simp [NtpUpdateTime.afterSetSystemTime]

/-- Of the callers, the network callback does not write the file. -/
theorem NtpUpdateTime.afterSetSystemTime_file :
    (s.afterSetSystemTime caller .complete).file
      = if caller = .network then s.file
        else some (s.afterSetSystemTime caller .complete).autoTimeInfo := by
  cases caller <;> rfl

/-- What a call of `SetSystemTime` leaves to its caller. -/
theorem NtpUpdateTime.wholeSetSystemTime_eq_after :
    ∃ left : NtpUpdateTime, left.file = s.file ∧
      left.autoTimeInfo = { s.autoTimeInfo with
        lastUpdateTime := (s.newTime env).getD s.autoTimeInfo.lastUpdateTime } ∧
      s.wholeSetSystemTime caller env = left.afterSetSystemTime caller .complete := by
  unfold NtpUpdateTime.wholeSetSystemTime NtpUpdateTime.newTime TimeService.setSystemTime
  split
  · exact ⟨s, rfl, rfl, rfl⟩
  · unfold NtpUpdateTime.finishSetSystemTime
    refine ⟨_, ?_, ?_, rfl⟩
    · cases (refreshSystemTime s.mTimeResult env.refresh env.curTimezoneId).2 <;> rfl
    · cases (refreshSystemTime s.mTimeResult env.refresh env.curTimezoneId).2 <;> rfl

/-- `autoTimeInfo_` after a call of `SetSystemTime` and the caller's part. -/
theorem NtpUpdateTime.wholeSetSystemTime_autoTimeInfo :
    (s.wholeSetSystemTime caller env).autoTimeInfo
      = { s.autoTimeInfo with
          status := if caller = .switchOn then "ON" else s.autoTimeInfo.status
          lastUpdateTime := (s.newTime env).getD s.autoTimeInfo.lastUpdateTime } := by
  obtain ⟨left, _, hinfo, heq⟩ := s.wholeSetSystemTime_eq_after caller env
  rw [heq, left.afterSetSystemTime_autoTimeInfo, hinfo]

@[simp] theorem NtpUpdateTime.updateNITZSetTime_file (bootTimeNano : UInt64) :
    (s.updateNITZSetTime bootTimeNano).file = s.file := by
  unfold NtpUpdateTime.updateNITZSetTime
  rfl

theorem NtpUpdateTime.wholeSetSystemTime_file :
    (s.wholeSetSystemTime caller env).file
      = if caller = .network then s.file
        else some (s.wholeSetSystemTime caller env).autoTimeInfo := by
  obtain ⟨left, hfile, _, heq⟩ := s.wholeSetSystemTime_eq_after caller env
  rw [heq, left.afterSetSystemTime_file, hfile]

end

/-- A call of the timer or of `UpdateStatusOn` leaves a true record exactly when what it hands to
    `SetTime` is served or known. -/
theorem RecordTrue.setSystemTime_iff {s : AutoTimeHistory} (h : RecordTrue s)
    {caller : SetSystemTimeCaller} (hcaller : caller ≠ .network) (env : SetSystemTimeEnv) :
    RecordTrue (s.setSystemTime caller env) ↔ s.ServedOrKnown env := by
  have hfile : (s.setSystemTime caller env).ntp.file
      = some (s.setSystemTime caller env).ntp.autoTimeInfo := by
    show (s.ntp.wholeSetSystemTime caller env).file = some _
    rw [s.ntp.wholeSetSystemTime_file caller env, if_neg hcaller]
    rfl
  have htime : (s.setSystemTime caller env).ntp.autoTimeInfo.lastUpdateTime
      = (s.ntp.newTime env).getD s.ntp.autoTimeInfo.lastUpdateTime := by
    show (s.ntp.wholeSetSystemTime caller env).autoTimeInfo.lastUpdateTime = _
    rw [s.ntp.wholeSetSystemTime_autoTimeInfo caller env]
  -- the time is recorded whether `SetTime` has succeeded or not
  have hknown : (s.setSystemTime caller env).Known
      ((s.ntp.newTime env).getD s.ntp.autoTimeInfo.lastUpdateTime) ↔ s.ServedOrKnown env := by
    unfold AutoTimeHistory.ServedOrKnown AutoTimeHistory.Known AutoTimeHistory.setSystemTime
    cases hnew : s.ntp.newTime env with
    | none => simpa [AutoTimeHistory.Known] using h.known
    | some time =>
      rw [Option.getD_some]
      by_cases hok : (s.ntp.systemTime.setTime time env.setTime).1.isOk = true
      · have hserved := (s.ntp.systemTime.setTime_isOk_iff time env.setTime).mp hok
        simp [hok, hserved]
      · have hserved : ¬ (env.setTime.Sets time ∧ ¬ env.setTime.rtc.Fails) := fun hserved =>
          hok ((s.ntp.systemTime.setTime_isOk_iff time env.setTime).mpr hserved)
        simp [hok, hserved]
  rw [← hknown, ← htime]
  exact ⟨fun ht => ht.known, fun ht => ⟨ht, hfile⟩⟩

/-- A call of the network callback leaves a true record exactly when it changes nothing in it. -/
theorem RecordTrue.setSystemTime_network_iff {s : AutoTimeHistory} (h : RecordTrue s)
    (env : SetSystemTimeEnv) :
    RecordTrue (s.setSystemTime .network env) ↔
      ∀ time, s.ntp.newTime env = some time → time = s.ntp.autoTimeInfo.lastUpdateTime := by
  have hinfo : (s.setSystemTime .network env).ntp.autoTimeInfo = { s.ntp.autoTimeInfo with
      lastUpdateTime := (s.ntp.newTime env).getD s.ntp.autoTimeInfo.lastUpdateTime } := by
    show (s.ntp.wholeSetSystemTime .network env).autoTimeInfo = _
    rw [s.ntp.wholeSetSystemTime_autoTimeInfo .network env]
    simp
  -- the file stays as it is, so nothing may change in memory
  have hfile : (s.setSystemTime .network env).ntp.file = some s.ntp.autoTimeInfo := by
    show (s.ntp.wholeSetSystemTime .network env).file = _
    rw [s.ntp.wholeSetSystemTime_file .network env, if_pos rfl, h.stored]
  constructor
  · intro ht time hnew
    have hsame : s.ntp.autoTimeInfo = (s.setSystemTime .network env).ntp.autoTimeInfo :=
      Option.some.inj (hfile.symm.trans ht.stored)
    rw [hinfo, hnew, Option.getD_some] at hsame
    rw [hsame]
  · intro hnew
    have htime : (s.ntp.newTime env).getD s.ntp.autoTimeInfo.lastUpdateTime
        = s.ntp.autoTimeInfo.lastUpdateTime := by
      cases hcase : s.ntp.newTime env with
      | none => rfl
      | some time => exact hnew time hcase
    rw [htime] at hinfo
    refine ⟨?_, by rw [hfile, hinfo]⟩
    rw [hinfo]
    exact h.known.imp_right fun hmem => List.mem_append_left _ hmem

/-- The other fields do not matter. -/
theorem RecordTrue.of_same {s : AutoTimeHistory} (h : RecordTrue s) {ntp : NtpUpdateTime}
    (hinfo : ntp.autoTimeInfo = s.ntp.autoTimeInfo) (hfile : ntp.file = s.ntp.file) :
    RecordTrue { s with ntp := ntp } := by
  refine ⟨?_, ?_⟩
  · show s.Known ntp.autoTimeInfo.lastUpdateTime
    rw [hinfo]
    exact h.known
  · show ntp.file = some ntp.autoTimeInfo
    rw [hinfo, hfile]
    exact h.stored

/-- The record that `Init` leaves, from a file that is missing or holds a true record. -/
theorem RecordTrue.init {s : AutoTimeHistory}
    (hfile : ∀ info, s.ntp.file = some info → s.Known info.lastUpdateTime) :
    RecordTrue (s.step .init) := by
  unfold AutoTimeHistory.step NtpUpdateTime.init
  cases hcase : s.ntp.file with
  | none => exact ⟨.inl rfl, rfl⟩
  | some info => exact ⟨hfile info hcase, rfl⟩

/-- One call. -/
theorem RecordTrue.step_iff {s : AutoTimeHistory} (h : RecordTrue s) (call : AutoTimeCall) :
    RecordTrue (s.step call) ↔ RecordsTruth s call := by
  cases call with
  | init =>
    refine iff_of_true (RecordTrue.init fun info hfile => ?_) trivial
    rw [h.stored] at hfile
    rw [← Option.some.inj hfile]
    exact h.known
  | updateStatusOn env =>
    by_cases hon : s.ntp.checkStatus = true
    · have hstep : s.step (.updateStatusOn env) = s := if_pos hon
      rw [hstep]
      exact iff_of_true h fun hoff => by simp [hon] at hoff
    · have hstep : s.step (.updateStatusOn env) = s.setSystemTime .switchOn env := if_neg hon
      rw [hstep, h.setSystemTime_iff (by decide)]
      exact ⟨fun hserved _ => hserved, fun hserved => hserved (by simpa using hon)⟩
  | updateStatusOff => exact iff_of_true ⟨.inl rfl, rfl⟩ trivial
  | refreshNetworkTimeByTimer env =>
    by_cases hon : s.ntp.checkStatus = true
    · have hstep : s.step (.refreshNetworkTimeByTimer env) = s.setSystemTime .timer env := by
        simp [AutoTimeHistory.step, hon]
      rw [hstep, h.setSystemTime_iff (by decide)]
      exact ⟨fun hserved _ => hserved, fun hserved => hserved hon⟩
    · have hstep : s.step (.refreshNetworkTimeByTimer env) = s := by
        simp [AutoTimeHistory.step, hon]
      rw [hstep]
      exact iff_of_true h fun hyes => absurd hyes hon
  | netCapabilitiesChange internet env =>
    cases internet with
    | false => exact iff_of_true h fun hyes => by cases hyes
    | true =>
      have hstep : s.step (.netCapabilitiesChange true env) = s.setSystemTime .network env := rfl
      rw [hstep, h.setSystemTime_network_iff]
      exact ⟨fun hsame _ => hsame, fun hsame => hsame rfl⟩
  | updateNITZSetTime bootTimeNano =>
    have hinfo := s.ntp.updateNITZSetTime_autoTimeInfo bootTimeNano
    have hfile := s.ntp.updateNITZSetTime_file bootTimeNano
    exact iff_of_true (h.of_same hinfo hfile) trivial

/-- **The recorded automatic time.** On a device whose autotime file is missing or holds a true
    record, from the first `Init` on and over every sequence of calls, with every outcome of the NTP
    requests and of `SetTime`: the record is true and stored after every call exactly when every
    call records the truth. -/
theorem autoTimeRecord_true_iff {s : AutoTimeHistory}
    (hfile : ∀ info, s.ntp.file = some info → s.Known info.lastUpdateTime)
    (calls : List AutoTimeCall) :
    (∀ t ∈ Run.states AutoTimeHistory.step (s.step .init) calls, RecordTrue t) ↔
      Run.Along AutoTimeHistory.step RecordsTruth (s.step .init) calls :=
  @Run.forall_states_iff _ _ _ _ calls (fun _ => True) _ _ trivial (RecordTrue.init hfile)
    (fun _ _ _ => trivial) fun _ call _ ht => ht.step_iff call

/-! ### A device without an autotime file -/

/-- Before the first `Init`. -/
def firstBoot : AutoTimeHistory :=
  ⟨.start ⟨"", "", 0⟩ none ⟨⟨1000, 0⟩, true, []⟩, []⟩

/-- The server answers, and `SetTime` succeeds. -/
def refreshServed : SetSystemTimeEnv := ⟨0, refreshAt1683325312, "Asia/Shanghai", setTimeServed⟩

/-- The server answers, and `settimeofday` fails. -/
def refreshRefused : SetSystemTimeEnv :=
  ⟨0, refreshAt1683325312, "Asia/Shanghai", { setTimeServed with settimeofday := -1 }⟩

/-- The timer records a time that the clock was not set to, and the network callback one that the
    file does not hold. -/
theorem autoTimeRecord_untrue :
    (∀ info, firstBoot.ntp.file = some info → firstBoot.Known info.lastUpdateTime) ∧
    (∃ t ∈ Run.states AutoTimeHistory.step (firstBoot.step .init)
        [.refreshNetworkTimeByTimer refreshRefused],
      ¬ t.Known t.ntp.autoTimeInfo.lastUpdateTime) ∧
    ∃ t ∈ Run.states AutoTimeHistory.step (firstBoot.step .init)
        [.netCapabilitiesChange true refreshServed],
      t.ntp.file ≠ some t.ntp.autoTimeInfo := by
  refine ⟨fun info hfile => ?_, ?_, ?_⟩
  · cases hfile
  · refine ⟨(firstBoot.step .init).step (.refreshNetworkTimeByTimer refreshRefused), ?_, ?_⟩
    · exact .tail _ (.head _)
    · have hlast : ((firstBoot.step .init).step
          (.refreshNetworkTimeByTimer refreshRefused)).ntp.autoTimeInfo.lastUpdateTime
          = 1683354112000 := by decide +kernel
      have hnone : ((firstBoot.step .init).step
          (.refreshNetworkTimeByTimer refreshRefused)).successes = [] := by decide +kernel
      rw [AutoTimeHistory.Known, hlast, hnone]
      decide
  · refine ⟨(firstBoot.step .init).step (.netCapabilitiesChange true refreshServed), ?_, ?_⟩
    · exact .tail _ (.head _)
    · decide +kernel

/-- The timer's call that is served keeps the record. -/
theorem autoTimeRecord_true_served :
    (firstBoot.step .init).ntp.newTime refreshServed = some 1683354112000 ∧
    ∀ t ∈ Run.states AutoTimeHistory.step (firstBoot.step .init)
      [.refreshNetworkTimeByTimer refreshServed], RecordTrue t := by
  have hnew : (firstBoot.step .init).ntp.newTime refreshServed = some 1683354112000 := by
    decide +kernel
  refine ⟨hnew, (autoTimeRecord_true_iff (fun info hfile => ?_) _).mpr ?_⟩
  · cases hfile
  · refine ⟨fun _ time htime => .inl ?_, trivial⟩
    rw [hnew] at htime
    rw [← Option.some.inj htime]
    refine ⟨by decide, ?_⟩
    rw [← RtcDevice.setRtcTime_neg_iff]
    decide

end TimeService
