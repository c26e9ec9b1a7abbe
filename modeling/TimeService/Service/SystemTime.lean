import Mathlib.Data.Int.Notation
import Mathlib.Tactic.NormNum

namespace TimeService

/-!
# Setting and reading the system time

`TimeService::SetTime` with `set_rtc_time` and the event it publishes, and
`TimeService::GetWallTimeMs`.  What the permission check, the kernel and the RTC device answer is
an argument (`SetTimeEnv`).

* `SystemTime.setTime_outcome`: what a call of `SetTime` can answer and do;
* `SystemTime.setTime_cases`: what it can do to the clock;
* `SystemTime.getWallTimeMs_setTime`: a time that reaches the kernel is read back unchanged.
-/

/-- `struct timeval`. -/
structure Timeval where
  tvSec : ℤ
  tvUsec : ℤ
deriving DecidableEq, Repr

/-- `struct timespec`. -/
structure Timespec where
  tvSec : ℤ
  tvNsec : ℤ
deriving DecidableEq, Repr

/-- The error codes of `time_common.h`. -/
inductive TimeError
  | saDied
  | readParcelError
  | writeParcelError
  | publishFail
  | transactError
  | dealFailed
  | parametersInvalid
  | setRtcFailed
  | notFound
  | noPermission
deriving DecidableEq, Repr

/-- `LONG_MAX`. -/
def longMax : ℤ := 9223372036854775807

/-- What `set_rtc_time` meets: the number of the wall-clock RTC, the descriptor `open` gives,
    whether `gmtime_r` converts the time, and the result of `ioctl`. -/
structure RtcDevice where
  rtcId : ℤ
  fd : ℤ
  gmtimeOk : Bool
  ioctl : ℤ
deriving DecidableEq, Repr

/-- What `SetTime` meets: the caller's permission, the result of `settimeofday`, the RTC, and the
    steady clock when the event is published. -/
structure SetTimeEnv where
  hasPerm : Bool
  settimeofday : ℤ
  rtc : RtcDevice
  steadyTime : ℤ
deriving DecidableEq, Repr

/-- `CLOCK_REALTIME`, with the part of `TimeServiceNotify` that `SetTime` uses: whether
    `RegisterPublishEvents` has run, and the time-changed events published so far. -/
structure SystemTime where
  realtime : Timespec
  registered : Bool
  timeChanged : List ℤ
deriving DecidableEq, Repr

/-- `TimeService::set_rtc_time`. -/
def RtcDevice.setRtcTime (rtc : RtcDevice) : ℤ :=
  if rtc.rtcId < 0 then -1
  else if rtc.fd < 0 then -1
  else if rtc.gmtimeOk then rtc.ioctl
  else -1

/-- `TimeServiceNotify::PublishTimeChanageEvents`. -/
def SystemTime.publishTimeChangeEvents (s : SystemTime) (eventTime : ℤ) : SystemTime :=
  if s.registered then { s with timeChanged := s.timeChanged ++ [eventTime] } else s

/-- The check of the argument of `SetTime`. -/
def invalidTime (time : ℤ) : Bool := time < 0 ∨ time.tdiv 1000 ≥ longMax

/-- `TimeService::SetTime`. -/
def SystemTime.setTime (s : SystemTime) (time : ℤ) (env : SetTimeEnv) :
    Except TimeError Unit × SystemTime :=
  if !env.hasPerm then (.error .noPermission, s) else
  if invalidTime time then (.error .parametersInvalid, s) else
  let tv : Timeval := ⟨time.tdiv 1000, time.tmod 1000 * 1000⟩
  if env.settimeofday < 0 then (.error .dealFailed, s) else
  -- the kernel has taken over the time
  let s := { s with realtime := ⟨tv.tvSec, tv.tvUsec * 1000⟩ }
  if env.rtc.setRtcTime < 0 then (.error .setRtcFailed, s) else
  (.ok (), s.publishTimeChangeEvents env.steadyTime)

/-- `TimeService::GetWallTimeMs`. -/
def SystemTime.getWallTimeMs (s : SystemTime) (clockGettimeOk : Bool) : Except TimeError ℤ :=
  if clockGettimeOk then .ok (s.realtime.tvSec * 1000 + s.realtime.tvNsec.tdiv 1000000)
  else .error .dealFailed

/-- A call of `SetTime` that comes as far as `settimeofday`, and `settimeofday` succeeds. -/
def SetTimeEnv.Sets (env : SetTimeEnv) (time : ℤ) : Prop :=
  env.hasPerm = true ∧ invalidTime time = false ∧ 0 ≤ env.settimeofday

instance (env : SetTimeEnv) (time : ℤ) : Decidable (env.Sets time) :=
  inferInstanceAs (Decidable (_ ∧ _))

/-- The clock shows another time. -/
def SystemTime.withClock (s : SystemTime) (realtime : Timespec) : SystemTime :=
  { s with realtime := realtime }

/-- A step of `set_rtc_time` fails. -/
def RtcDevice.Fails (rtc : RtcDevice) : Prop :=
  rtc.rtcId < 0 ∨ rtc.fd < 0 ∨ rtc.gmtimeOk = false ∨ rtc.ioctl < 0

/-- What `SetTime` makes of the clock. -/
def timespecOfMillis (time : ℤ) : Timespec := ⟨time.tdiv 1000, time.tmod 1000 * 1000 * 1000⟩

section
variable (s : SystemTime)

@[simp] theorem SystemTime.withClock_realtime (realtime : Timespec) :
    (s.withClock realtime).realtime = realtime := rfl

@[simp] theorem SystemTime.withClock_registered (realtime : Timespec) :
    (s.withClock realtime).registered = s.registered := rfl

@[simp] theorem SystemTime.withClock_timeChanged (realtime : Timespec) :
    (s.withClock realtime).timeChanged = s.timeChanged := rfl

/-- Publishing does not touch the clock. -/
@[simp] theorem SystemTime.publishTimeChangeEvents_realtime (eventTime : ℤ) :
    (s.publishTimeChangeEvents eventTime).realtime = s.realtime := by
  unfold SystemTime.publishTimeChangeEvents
  split <;> rfl

end

theorem RtcDevice.setRtcTime_neg_iff (rtc : RtcDevice) : rtc.setRtcTime < 0 ↔ rtc.Fails := by
  unfold RtcDevice.setRtcTime RtcDevice.Fails
  split
  · simp [*]
  · split
    · simp [*]
    · split
      · simp [*]
      · simp [*]

/-- **`SetTime`, by cases.** It is refused and changes nothing; it sets the clock and fails at the
    RTC; or it sets both and publishes an event. -/
theorem SystemTime.setTime_outcome (s : SystemTime) (time : ℤ) (env : SetTimeEnv) :
    (¬ env.Sets time ∧ ∃ e, s.setTime time env = (.error e, s)) ∨
    (env.Sets time ∧ env.rtc.Fails ∧
      s.setTime time env = (.error .setRtcFailed, s.withClock (timespecOfMillis time))) ∨
    (env.Sets time ∧ ¬ env.rtc.Fails ∧
      s.setTime time env
        = (.ok (),
          (s.withClock (timespecOfMillis time)).publishTimeChangeEvents env.steadyTime)) := by
  unfold SystemTime.setTime
  by_cases hsets : env.Sets time
  · obtain ⟨hperm, hinvalid, hset⟩ := hsets
    have hnot : ¬ env.settimeofday < 0 := by omega
    right
    simp only [hperm, hinvalid, hnot, Bool.not_true, Bool.false_eq_true, if_false]
    by_cases hrtc : env.rtc.setRtcTime < 0
    · left
      refine ⟨⟨hperm, hinvalid, hset⟩, env.rtc.setRtcTime_neg_iff.mp hrtc, ?_⟩
      rw [if_pos hrtc]
      rfl
    · right
      refine ⟨⟨hperm, hinvalid, hset⟩, fun h => hrtc (env.rtc.setRtcTime_neg_iff.mpr h), ?_⟩
      rw [if_neg hrtc]
      rfl
  · left
    refine ⟨hsets, ?_⟩
    by_cases hperm : env.hasPerm = true
    · by_cases hinvalid : invalidTime time = true
      · exact ⟨.parametersInvalid, by simp [hperm, hinvalid]⟩
      · have hset : env.settimeofday < 0 := by
          by_contra hset
          exact hsets ⟨hperm, by simpa using hinvalid, by omega⟩
        exact ⟨.dealFailed, by simp [hperm, hinvalid, hset]⟩
    · exact ⟨.noPermission, by simp [hperm]⟩

/-- Which calls of `SetTime` succeed. -/
theorem SystemTime.setTime_isOk_iff (s : SystemTime) (time : ℤ) (env : SetTimeEnv) :
    (s.setTime time env).1.isOk = true ↔ env.Sets time ∧ ¬ env.rtc.Fails := by
  rcases s.setTime_outcome time env with ⟨hsets, e, heq⟩ | ⟨hsets, hrtc, heq⟩ | ⟨hsets, hrtc, heq⟩
  · rw [heq]
    simp [Except.isOk, Except.toBool, hsets]
  · rw [heq]
    simp [Except.isOk, Except.toBool, hrtc]
  · rw [heq]
    simp [Except.isOk, Except.toBool, hsets, hrtc]

/-- **The clock after `SetTime`.** It is set to the argument, or nothing has changed. -/
theorem SystemTime.setTime_cases (s : SystemTime) (time : ℤ) (env : SetTimeEnv) :
    (env.Sets time ∧
      (s.setTime time env).2.realtime = ⟨time.tdiv 1000, time.tmod 1000 * 1000 * 1000⟩) ∨
    (¬ env.Sets time ∧ (s.setTime time env).2 = s) := by
  rcases s.setTime_outcome time env with ⟨hsets, e, heq⟩ | ⟨hsets, _, heq⟩ | ⟨hsets, _, heq⟩
  · right
    rw [heq]
    exact ⟨hsets, rfl⟩
  · left
    rw [heq]
    exact ⟨hsets, rfl⟩
  · left
    rw [heq]
    refine ⟨hsets, ?_⟩
    rw [SystemTime.publishTimeChangeEvents_realtime]
    rfl

theorem invalidTime_eq_false {time : ℤ} : invalidTime time = false ↔
    0 ≤ time ∧ time.tdiv 1000 < longMax := by
  simp [invalidTime]

/-- **Reading back.** A time that the kernel takes over is the wall time read at that instant. -/
theorem SystemTime.getWallTimeMs_setTime (s : SystemTime) {time : ℤ} {env : SetTimeEnv}
    (h : env.Sets time) : (s.setTime time env).2.getWallTimeMs true = .ok time := by
  rcases s.setTime_cases time env with ⟨_, hset⟩ | ⟨hno, _⟩
  · have hnonneg : 0 ≤ time := (invalidTime_eq_false.mp h.2.1).1
    have hmod : 0 ≤ time.tmod 1000 := Int.tmod_nonneg 1000 hnonneg
    unfold SystemTime.getWallTimeMs
    rw [if_pos rfl, hset]
    show Except.ok (time.tdiv 1000 * 1000 + (time.tmod 1000 * 1000 * 1000).tdiv 1000000) = _
    have hfraction : (time.tmod 1000 * 1000 * 1000).tdiv 1000000 = time.tmod 1000 := by
      rw [mul_assoc, show (1000 * 1000 : ℤ) = 1000000 from rfl]
      exact Int.mul_tdiv_cancel _ (by decide)
    rw [hfraction, mul_comm, Int.mul_tdiv_add_tmod]
  · exact absurd h hno

end TimeService
