import TimeService.Timer.Info
import Mathlib.Logic.Function.Basic

namespace TimeService

/-!
# The kernel timers

`timer_handler.h` and `timer_handler.cpp`, with the part of the kernel behind them that the
manager relies on: each timer file descriptor is disarmed, armed for an absolute time of its
clock, or has expired with the expiry not yet read.  Setting a timer overwrites what it was;
boot time reaching an armed time turns it into an expiry; reading consumes the expiry.
-/

/-- A timer file descriptor. -/
inductive TimerFd
  | disarmed
  | armed (time : ℤ)
  | expired
deriving DecidableEq, Repr

/-- `timerfd_settime` with `TFD_TIMER_ABSTIME` and no interval.  Negative values are refused with
    `EINVAL`, the zero value disarms the timer. -/
def TimerFd.settime (fd : TimerFd) (second nsec : ℤ) : ℤ × TimerFd :=
  if second < 0 ∨ nsec < 0 ∨ nsec ≥ 1000000000 then (-1, fd)
  else if second = 0 ∧ nsec = 0 then (0, .disarmed)
  else (0, .armed (second * 1000000000 + nsec))

/-- What boot time `bootTime` makes of a timer on the boot clock. -/
def TimerFd.expire (bootTime : ℤ) : TimerFd → TimerFd
  | .armed time => if time ≤ bootTime then .expired else .armed time
  | fd => fd

/-- `read` on a timer: an expiry is consumed, and a timer without interval stays disarmed. -/
def TimerFd.read : TimerFd → TimerFd
  | .expired => .disarmed
  | fd => fd

/-- The timer wakes the looper no later than `time`: it is armed at or before it, or an expiry
    waits to be read. -/
def TimerFd.Covers (time : ℤ) : TimerFd → Prop
  | .disarmed => False
  | .armed t => t ≤ time
  | .expired => True

/-- `ALARM_TYPE_COUNT`. -/
def alarmTypeCount : ℕ := 5

/-- `TimerHandler`: the file descriptors `fds_`, one per alarm type and one for clock changes. -/
structure TimerHandler where
  fds : Fin (alarmTypeCount + 1) → TimerFd

/-- `TimerHandler::Create`: no timer is armed. -/
def TimerHandler.create : TimerHandler where
  fds := fun _ => .disarmed

/-- `TimerHandler::Set`: the status and the timers after it. -/
def TimerHandler.set (h : TimerHandler) (type : ℕ) (when : ℤ) : ℤ × TimerHandler :=
  if htype : type > alarmTypeCount then (-1, h)
  else
    let second := when.tdiv 1000000000
    let r := (h.fds ⟨type, by omega⟩).settime second (when - second * 1000000000)
    (r.1, { fds := Function.update h.fds ⟨type, by omega⟩ r.2 })

/-- The index of `CLOCK_BOOTTIME_ALARM`, the timer of type `ELAPSED_REALTIME_WAKEUP`. -/
def wakeupFd : Fin (alarmTypeCount + 1) := 2

/-- The index of `CLOCK_BOOTTIME`, the timer of type `ELAPSED_REALTIME`. -/
def nonWakeupFd : Fin (alarmTypeCount + 1) := 3

/-- Boot time advances to `bootTime`: the timers on the boot clock expire when they are due. -/
def TimerHandler.expire (h : TimerHandler) (bootTime : ℤ) : TimerHandler where
  fds := fun i => if i = wakeupFd ∨ i = nonWakeupFd then (h.fds i).expire bootTime else h.fds i

/-- What a `read` of `WaitForAlarm` answers: an expiry, `ECANCELED`, or another error. -/
inductive ReadAnswer
  | expired
  | canceled
  | failed
deriving DecidableEq, Repr

/-- `ALARM_TIME_CHANGE_MASK` of the handler and `TIME_CHANGED_MASK` of the manager. -/
def timeChangedMask : BitVec 32 := 1#32 <<< 16

/-- The timers after `read` on the one of index `i`. -/
def TimerHandler.readFd (h : TimerHandler) (i : Fin (alarmTypeCount + 1)) : TimerHandler where
  fds := Function.update h.fds i (h.fds i).read

/-- The loop of `TimerHandler::WaitForAlarm` over the events of `epoll_wait`. -/
def TimerHandler.readEvents : TimerHandler → BitVec 32 →
    List (Fin (alarmTypeCount + 1) × ReadAnswer) → BitVec 32 × TimerHandler
  | h, result, [] => (result, h)
  | h, result, (alarmIdx, .expired) :: rest =>
    (h.readFd alarmIdx).readEvents (result ||| 1#32 <<< alarmIdx.val) rest
  | h, result, (alarmIdx, .canceled) :: rest =>
    if alarmIdx.val = alarmTypeCount then h.readEvents (result ||| timeChangedMask) rest
    else (-1#32, h)
  | h, _, (_, .failed) :: _ => (-1#32, h)

/-- `TimerHandler::WaitForAlarm`: its result and the timers after it.  `none` stands for a failed
    `epoll_wait`. -/
def TimerHandler.waitForAlarm (h : TimerHandler) :
    Option (List (Fin (alarmTypeCount + 1) × ReadAnswer)) → BitVec 32 × TimerHandler
  | none => (-1#32, h)
  | some events => h.readEvents 0#32 events

/-! ### Setting and expiring -/

/-- A positive time arms the timer for exactly that time. -/
theorem TimerFd.settime_of_pos (fd : TimerFd) {when : ℤ} (hpos : 0 < when) :
    (fd.settime (when.tdiv 1000000000) (when - when.tdiv 1000000000 * 1000000000)).2
      = .armed when := by
  -- seconds and nanoseconds of a positive time are in range and not both zero
  have hdiv : when.tdiv 1000000000 = when / 1000000000 := Int.tdiv_eq_ediv_of_nonneg hpos.le
  have hsum : when / 1000000000 * 1000000000 + (when - when / 1000000000 * 1000000000) = when := by
    omega
  rw [hdiv, settime, if_neg (by omega), if_neg (by omega), hsum]

theorem TimerFd.covers_expire {fd : TimerFd} {time bootTime : ℤ} (h : fd.Covers time) :
    (fd.expire bootTime).Covers time := by
  cases fd with
  | disarmed => exact h
  | armed t =>
    rw [TimerFd.expire]
    split
    · trivial
    · exact h
  | expired => trivial

theorem TimerFd.covers_mono {fd : TimerFd} {time time' : ℤ} (h : fd.Covers time)
    (hle : time ≤ time') : fd.Covers time' := by
  cases fd with
  | disarmed => exact h
  | armed t => exact Int.le_trans h hle
  | expired => trivial

/-- `Set` with a positive time arms its own timer and leaves every other one alone. -/
theorem TimerHandler.set_fds (h : TimerHandler) {type : ℕ} {when : ℤ}
    (htype : type < alarmTypeCount + 1) (hpos : 0 < when) (i : Fin (alarmTypeCount + 1)) :
    (h.set type when).2.fds i = if i = ⟨type, htype⟩ then .armed when else h.fds i := by
  rw [TimerHandler.set, dif_neg (by omega)]
  by_cases hi : i = ⟨type, htype⟩
  · -- its own timer
    subst hi
    simp [TimerFd.settime_of_pos _ hpos]
  · simp [hi]

theorem TimerHandler.covers_expire {h : TimerHandler} {i : Fin (alarmTypeCount + 1)}
    {time bootTime : ℤ} (hc : (h.fds i).Covers time) :
    ((h.expire bootTime).fds i).Covers time := by
  show (if i = wakeupFd ∨ i = nonWakeupFd then (h.fds i).expire bootTime else h.fds i).Covers time
  split
  · exact TimerFd.covers_expire hc
  · exact hc

end TimeService
