import Mathlib.Data.Int.Basic
import Mathlib.Tactic.Ring

namespace TimeService

/-!
# Timer records and the arithmetic on times

The data of `timer_info.h` and `timer_manager_interface.h`, and the pure functions of
`timer_manager.cpp` on times.

Times are read as unbounded integers: a `time_point` and a `system_clock` reading count
nanoseconds, a `milliseconds` duration counts milliseconds.  The `uint64_t` parameters of the
API keep their conversion to a signed duration (`milliseconds`).  `BATCH_WINDOW_COE * x` is
read as three quarters of `x`, truncated.
-/

/-! ### Durations -/

/-- A duration in milliseconds, as the nanoseconds a `time_point` is moved by. -/
def msToNs (d : ℤ) : ℤ := d * 1000000

/-- `duration_cast<milliseconds>` of a duration in nanoseconds: it truncates toward zero. -/
def durationCastMs (d : ℤ) : ℤ := d.tdiv 1000000

/-- `milliseconds(x)` for a `uint64_t` value `x`: the signed 64-bit duration with its bits. -/
def milliseconds (x : ℕ) : ℤ := (x : ℤ).bmod (2 ^ 64)

def minFuturity : ℤ := 5000
def zeroFuturity : ℤ := 0
def minIntervalFiveSeconds : ℤ := 5000
def minIntervalOneSeconds : ℤ := 1000
def maxInterval : ℤ := 24 * 365 * 3600000
def intervalHour : ℤ := 3600000
def intervalHalfDay : ℤ := 12 * 3600000
def minFuzzableInterval : ℤ := 10000

/-! ### Types, flags, clocks -/

/-- `ITimerManager::TimerType`.  The code passes types on as `int`, so a timer's type may also be
    a number outside this enumeration. -/
inductive TimerType
  | rtcWakeup
  | rtc
  | elapsedRealtimeWakeup
  | elapsedRealtime

/-- The `int` value of a timer type. -/
def TimerType.value : TimerType → ℤ
  | .rtcWakeup => 0
  | .rtc => 1
  | .elapsedRealtimeWakeup => 2
  | .elapsedRealtime => 3

/-- `ITimerManager::STANDALONE`. -/
def standalone : BitVec 32 := 1#32

/-- A `std::function<void(uint64_t)>`: which function object it holds, `none` when it is empty. -/
abbrev Callback := Option ℕ

/-- One reading of the two clocks of `ConvertToElapsed`: `GetBootTimeNs()` and
    `system_clock::now()`, in nanoseconds. -/
structure Clock where
  boot : ℤ
  rtc : ℤ
deriving DecidableEq, Repr

/-- `TimerEntry`: what `CreateTimer` stores for a timer. -/
structure TimerEntry where
  id : ℕ
  type : ℤ
  windowLength : ℕ
  interval : ℕ
  flag : ℤ
  callback : Callback
  uid : ℤ
deriving DecidableEq, Repr

/-- `TimerInfo`: one scheduled alarm.  `count` is a `uint64_t`; it is only multiplied into a
    duration that is added to a time, all modulo `2 ^ 64`, so the integer it stands for modulo
    `2 ^ 64` is kept here and the sum is that of the integers. -/
structure TimerInfo where
  id : ℕ
  type : ℤ
  origWhen : ℤ
  wakeup : Bool
  callback : Callback
  flags : BitVec 32
  uid : ℤ
  count : ℤ
  when : ℤ
  windowLength : ℤ
  whenElapsed : ℤ
  maxWhenElapsed : ℤ
  expectedWhenElapsed : ℤ
  expectedMaxWhenElapsed : ℤ
  repeatInterval : ℤ
deriving DecidableEq, Repr

/-- The constructor of `TimerInfo`. -/
def TimerInfo.make (id : ℕ) (type when whenElapsed windowLength maxWhen interval : ℤ)
    (callback : Callback) (flags : BitVec 32) (uid : ℤ) : TimerInfo where
  id := id
  type := type
  origWhen := when
  wakeup := type = TimerType.elapsedRealtimeWakeup.value || type = TimerType.rtcWakeup.value
  callback := callback
  flags := flags
  uid := uid
  count := 0
  when := when
  windowLength := windowLength
  whenElapsed := whenElapsed
  maxWhenElapsed := maxWhen
  expectedWhenElapsed := whenElapsed
  expectedMaxWhenElapsed := maxWhen
  repeatInterval := interval

/-! ### Conversions -/

/-- `MaxTriggerTime`: the end of the window of an inexact alarm. -/
def maxTriggerTime (now triggerAtTime interval : ℤ) : ℤ :=
  let futurity := if interval = 0 then durationCastMs (triggerAtTime - now) else interval
  let futurity := if futurity < minFuzzableInterval then 0 else futurity
  triggerAtTime + msToNs ((3 * futurity).tdiv 4)

/-- `TimerManager::ConvertToElapsed`: a trigger time in milliseconds of the clock of its type, as
    boot time.  The `RTC` types go through the wall clock, all others are boot times already. -/
def convertToElapsed (clock : Clock) (when type : ℤ) : ℤ :=
  if type = TimerType.rtc.value ∨ type = TimerType.rtcWakeup.value then
    let offset := msToNs when - clock.rtc
    clock.boot + offset
  else
    let offset := msToNs when - clock.boot
    clock.boot + offset

/-- The window that `TimerManager::SetHandler` computes: `maxElapsed` and the window length it then
    stores. -/
def setHandlerWindow (nominalTrigger triggerElapsed windowLengthDuration intervalDuration : ℤ) :
    ℤ × ℤ :=
  if windowLengthDuration = 0 then (triggerElapsed, windowLengthDuration)
  else if windowLengthDuration < 0 then
    let maxElapsed := maxTriggerTime nominalTrigger triggerElapsed intervalDuration
    (maxElapsed, durationCastMs (maxElapsed - triggerElapsed))
  else (triggerElapsed + msToNs windowLengthDuration, windowLengthDuration)

/-- The computation of `TimerManager::SetHandler` before it takes `mutex_`: the alarm it hands to
    `SetHandlerLocked`, or `none` when it returns early because the trigger time has passed.
    `nowElapsed` is its own reading of the boot clock, `clock` the one of `ConvertToElapsed`. -/
def setHandler (isSystemUid : ℤ → Bool) (nowElapsed : ℤ) (clock : Clock) (id : ℕ) (type : ℤ)
    (triggerAtTime windowLength interval : ℕ) (flag : ℤ) (callback : Callback) (uid : ℤ) :
    Option TimerInfo :=
  let windowLengthDuration := milliseconds windowLength
  let windowLengthDuration :=
    if windowLengthDuration > intervalHalfDay then intervalHour else windowLengthDuration
  let minInterval := if isSystemUid uid then minIntervalOneSeconds else minIntervalFiveSeconds
  let intervalDuration := milliseconds interval
  let intervalDuration :=
    if intervalDuration > 0 ∧ intervalDuration < minInterval then minInterval
    else if intervalDuration > maxInterval then maxInterval
    else intervalDuration
  let nominalTrigger := convertToElapsed clock (milliseconds triggerAtTime) type
  if nominalTrigger < nowElapsed then none
  else
    let minTrigger :=
      if isSystemUid uid then nowElapsed + msToNs zeroFuturity else nowElapsed + msToNs minFuturity
    let triggerElapsed := if nominalTrigger > minTrigger then nominalTrigger else minTrigger
    let window :=
      setHandlerWindow nominalTrigger triggerElapsed windowLengthDuration intervalDuration
    some (TimerInfo.make id type (milliseconds triggerAtTime) triggerElapsed window.2 window.1
      intervalDuration callback (BitVec.ofInt 32 flag) uid)

/-! ### Triggering and re-arming -/

/-- The whole periods between `expectedWhenElapsed` and `nowElapsed`, as the trigger loop counts
    them: both divisions truncate toward zero. -/
def TimerInfo.periods (nowElapsed : ℤ) (alarm : TimerInfo) : ℤ :=
  (durationCastMs (nowElapsed - alarm.expectedWhenElapsed)).tdiv alarm.repeatInterval

/-- The alarm as the trigger loop leaves it: `count` is set. -/
def TimerInfo.triggered (nowElapsed : ℤ) (alarm : TimerInfo) : TimerInfo :=
  { alarm with
    count := if alarm.repeatInterval > 0 then 1 + alarm.periods nowElapsed else 1 }

/-- The alarm the trigger loop schedules next for a triggered repeating alarm. -/
def TimerInfo.rearmed (nowElapsed : ℤ) (alarm : TimerInfo) : TimerInfo :=
  let delta := alarm.count * alarm.repeatInterval
  let nextElapsed := alarm.whenElapsed + msToNs delta
  TimerInfo.make alarm.id alarm.type (alarm.when + delta) nextElapsed alarm.windowLength
    (maxTriggerTime nowElapsed nextElapsed alarm.repeatInterval) alarm.repeatInterval
    alarm.callback alarm.flags alarm.uid

/-- The alarm `ReAddTimerLocked` puts back: `when` is reset to `origWhen` and the window follows
    the clocks of the re-adding.  `none` when it returns early because the time has passed. -/
def TimerInfo.reAdded (nowElapsed : ℤ) (clock : Clock) (timer : TimerInfo) : Option TimerInfo :=
  let whenElapsed := convertToElapsed clock timer.origWhen timer.type
  if whenElapsed < nowElapsed then none
  else
    let maxElapsed :=
      if timer.windowLength = 0 then whenElapsed
      else if timer.windowLength > 0 then whenElapsed + msToNs timer.windowLength
      else maxTriggerTime nowElapsed whenElapsed timer.repeatInterval
    some { timer with
      when := timer.origWhen
      whenElapsed := whenElapsed
      maxWhenElapsed := maxElapsed }

/-! ### Windows -/

@[simp] theorem TimerInfo.make_whenElapsed (id : ℕ)
    (type when whenElapsed windowLength maxWhen interval : ℤ) (callback : Callback)
    (flags : BitVec 32) (uid : ℤ) :
    (TimerInfo.make id type when whenElapsed windowLength maxWhen interval callback flags
      uid).whenElapsed = whenElapsed := rfl

@[simp] theorem TimerInfo.make_maxWhenElapsed (id : ℕ)
    (type when whenElapsed windowLength maxWhen interval : ℤ) (callback : Callback)
    (flags : BitVec 32) (uid : ℤ) :
    (TimerInfo.make id type when whenElapsed windowLength maxWhen interval callback flags
      uid).maxWhenElapsed = maxWhen := rfl

@[simp] theorem TimerInfo.make_type (id : ℕ)
    (type when whenElapsed windowLength maxWhen interval : ℤ) (callback : Callback)
    (flags : BitVec 32) (uid : ℤ) :
    (TimerInfo.make id type when whenElapsed windowLength maxWhen interval callback flags
      uid).type = type := rfl

@[simp] theorem TimerInfo.make_origWhen (id : ℕ)
    (type when whenElapsed windowLength maxWhen interval : ℤ) (callback : Callback)
    (flags : BitVec 32) (uid : ℤ) :
    (TimerInfo.make id type when whenElapsed windowLength maxWhen interval callback flags
      uid).origWhen = when := rfl

@[simp] theorem TimerInfo.make_when (id : ℕ)
    (type when whenElapsed windowLength maxWhen interval : ℤ) (callback : Callback)
    (flags : BitVec 32) (uid : ℤ) :
    (TimerInfo.make id type when whenElapsed windowLength maxWhen interval callback flags
      uid).when = when := rfl

@[simp] theorem TimerInfo.make_windowLength (id : ℕ)
    (type when whenElapsed windowLength maxWhen interval : ℤ) (callback : Callback)
    (flags : BitVec 32) (uid : ℤ) :
    (TimerInfo.make id type when whenElapsed windowLength maxWhen interval callback flags
      uid).windowLength = windowLength := rfl

@[simp] theorem TimerInfo.make_repeatInterval (id : ℕ)
    (type when whenElapsed windowLength maxWhen interval : ℤ) (callback : Callback)
    (flags : BitVec 32) (uid : ℤ) :
    (TimerInfo.make id type when whenElapsed windowLength maxWhen interval callback flags
      uid).repeatInterval = interval := rfl

theorem le_maxTriggerTime (now triggerAtTime interval : ℤ) :
    triggerAtTime ≤ maxTriggerTime now triggerAtTime interval := by
  have hcoe : ∀ futurity : ℤ,
      0 ≤ (3 * if futurity < minFuzzableInterval then 0 else futurity).tdiv 4 := by
    intro futurity
    refine Int.tdiv_nonneg ?_ (by decide)
    split
    · decide
    · rename_i hlong
      unfold minFuzzableInterval at hlong
      omega
  have := hcoe (if interval = 0 then durationCastMs (triggerAtTime - now) else interval)
  unfold maxTriggerTime msToNs
  simp only
  omega

/-- The end of the window that `SetHandler` computes. -/
theorem le_setHandlerWindow (nominalTrigger triggerElapsed windowLength interval : ℤ) :
    triggerElapsed ≤ (setHandlerWindow nominalTrigger triggerElapsed windowLength interval).1 := by
  unfold setHandlerWindow
  split
  · exact le_refl triggerElapsed
  · split
    · exact le_maxTriggerTime nominalTrigger triggerElapsed interval
    · unfold msToNs
      simp only
      omega

/-- **What `ReAddTimerLocked` puts back.** The alarm with a trigger time that is not in the past;
    its `when` and its window are the only other fields that change. -/
theorem TimerInfo.reAdded_eq_some {nowElapsed : ℤ} {clock : Clock} {x y : TimerInfo}
    (h : x.reAdded nowElapsed clock = some y) :
    nowElapsed ≤ y.whenElapsed ∧ ∃ when whenElapsed maxWhenElapsed,
      y = { x with
        when := when, whenElapsed := whenElapsed, maxWhenElapsed := maxWhenElapsed } := by
  unfold TimerInfo.reAdded at h
  simp only at h
  split at h
  · cases h
  · rename_i hpast
    cases h
    -- the alarm put back is the record update itself
    exact ⟨by simpa using hpast, _, _, _, rfl⟩

theorem TimerInfo.reAdded_id {nowElapsed : ℤ} {clock : Clock} {x y : TimerInfo}
    (h : x.reAdded nowElapsed clock = some y) : y.id = x.id := by
  obtain ⟨_, _, _, _, rfl⟩ := TimerInfo.reAdded_eq_some h
  rfl

end TimeService
