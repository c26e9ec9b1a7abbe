import TimeService.Ntp.SntpClient
import TimeService.Zone.TimeZoneInfo

namespace TimeService

/-!
# The network time

`ntp_update_time.cpp`: what `SetSystemTime` sets the system time to.

* `ntp_time_shifted`: the wall time is the server's time moved by the offset of the current
  timezone.
-/

/-- `NtpUpdateTime::IsNITZTimeInvalid`: despite its name true when the time of the mobile network is
    recent.  The arithmetic is unsigned. -/
def isNITZTimeInvalid (nitzUpdateTimeMili bootTimeNano : UInt64) : Bool :=
  if nitzUpdateTimeMili = 0 then false
  else bootTimeNano / 1000000 - nitzUpdateTimeMili < 86400000

/-- What `SetSystemTime` meets: at most two exchanges with the server, and the steady clock when the
    trusted time is read. -/
structure NtpRefresh where
  first : NtpExchange
  second : NtpExchange
  steadyMillis : ℤ
deriving DecidableEq, Repr

/-- `SetSystemTime` behind its check of the NITZ time: the trusted time it leaves, and the argument
    of its call of `SetTime` if it makes one. -/
def refreshSystemTime (mTimeResult : Option TimeResult) (x : NtpRefresh) (curTimezoneId : String) :
    Option TimeResult × Option ℤ :=
  let refreshed := forceRefresh x.first x.second mTimeResult
  if !refreshed.1 then (refreshed.2, none) else
  let currentTime := currentTimeMillis refreshed.2 x.steadyMillis
  if currentTime = invalidMillis then (refreshed.2, none)
  else if currentTime ≤ 0 then (refreshed.2, none)
  else (refreshed.2, some (currentTime + getCurrentOffsetMs curTimezoneId))

/-- `NtpUpdateTime::SetSystemTime` up to its call of `SetTime`. -/
def setSystemTime (nitzUpdateTimeMili bootTimeNano : UInt64) (mTimeResult : Option TimeResult)
    (x : NtpRefresh) (curTimezoneId : String) : Option TimeResult × Option ℤ :=
  if isNITZTimeInvalid nitzUpdateTimeMili bootTimeNano then (mTimeResult, none)
  else refreshSystemTime mTimeResult x curTimezoneId

/-- The argument of `SetTime` is the trusted time plus the offset of the timezone. -/
theorem refreshSystemTime_eq_some {mTimeResult : Option TimeResult} {x : NtpRefresh}
    {curTimezoneId : String} {time : ℤ}
    (h : (refreshSystemTime mTimeResult x curTimezoneId).2 = some time) :
    time = currentTimeMillis (refreshSystemTime mTimeResult x curTimezoneId).1 x.steadyMillis
      + getCurrentOffsetMs curTimezoneId := by
  unfold refreshSystemTime at h ⊢
  simp only at h ⊢
  split at h
  · cases h
  · split at h
    · cases h
    · split at h
      · cases h
      · rename_i hrefreshed hvalid hpositive
        simp only [hrefreshed, hvalid, hpositive, if_false] at h ⊢
        exact (Option.some.inj h).symm

theorem setSystemTime_eq_some {nitzUpdateTimeMili bootTimeNano : UInt64}
    {mTimeResult : Option TimeResult} {x : NtpRefresh} {curTimezoneId : String} {time : ℤ}
    (h : (setSystemTime nitzUpdateTimeMili bootTimeNano mTimeResult x curTimezoneId).2
      = some time) :
    time = currentTimeMillis
        (setSystemTime nitzUpdateTimeMili bootTimeNano mTimeResult x curTimezoneId).1 x.steadyMillis
      + getCurrentOffsetMs curTimezoneId := by
  unfold setSystemTime at h ⊢
  split at h
  · cases h
  · rename_i hnitz
    rw [if_neg hnitz]
    exact refreshSystemTime_eq_some h

/-- No supported zone is at Greenwich. -/
theorem getOffsetById_ne_zero {timezoneId : String} {offset : ℤ}
    (h : getOffsetById timezoneId = some offset) : offset ≠ 0 := by
  have hall : ∀ entry ∈ timezoneList, entry.2 ≠ 0 := by decide
  exact hall _ (getOffsetById_mem h)

/-- **The network time is not UTC.** For every supported timezone, every reply and every state of
    the clocks: when the system time is set, the wall time read back at that instant is the server's
    time moved by the offset of the timezone, and so never the server's time. -/
theorem ntp_time_shifted {curTimezoneId : String} {offset : ℤ}
    (hzone : getOffsetById curTimezoneId = some offset)
    {nitzUpdateTimeMili bootTimeNano : UInt64} {mTimeResult : Option TimeResult} {x : NtpRefresh}
    {time : ℤ}
    (hcall : (setSystemTime nitzUpdateTimeMili bootTimeNano mTimeResult x curTimezoneId).2
      = some time)
    (s : SystemTime) {env : SetTimeEnv} (henv : env.Sets time) :
    (s.setTime time env).2.getWallTimeMs true
        = .ok (currentTimeMillis
            (setSystemTime nitzUpdateTimeMili bootTimeNano mTimeResult x curTimezoneId).1
            x.steadyMillis + offset * 3600000) ∧
      (s.setTime time env).2.getWallTimeMs true
        ≠ .ok (currentTimeMillis
            (setSystemTime nitzUpdateTimeMili bootTimeNano mTimeResult x curTimezoneId).1
            x.steadyMillis) := by
  have htime := setSystemTime_eq_some hcall
  have hoffset : getCurrentOffsetMs curTimezoneId = offset * 3600000 := by
    rw [getCurrentOffsetMs, hzone, Option.getD_some]
  rw [hoffset] at htime
  rw [s.getWallTimeMs_setTime henv]
  refine ⟨by rw [← htime], fun heq => ?_⟩
  have hsame := Except.ok.inj heq
  have hne := getOffsetById_ne_zero hzone
  omega

/-! ### A reply -/

/-- A reply of a server whose clock shows 1683325312 s, to a client whose clock shows 0. -/
def replyAt1683325312 : NtpExchange where
  getaddrinfo := 0
  socket := 3
  connect := 0
  sendTime := ⟨0, 0⟩
  send := ntpPackageSize
  datagram := some (List.replicate 32 0 ++ (0xE8 :: List.replicate 7 0)
    ++ (0xE8 :: List.replicate 7 0))
  receiveTime := ⟨0, 0⟩
  steadyMillis := 5000

/-- A refresh that the server answers at once. -/
def refreshAt1683325312 : NtpRefresh := ⟨replyAt1683325312, replyAt1683325312, 5000⟩

/-- Permission, kernel and RTC all serve the call. -/
def setTimeServed : SetTimeEnv := ⟨true, 0, ⟨0, 4, true, 0⟩, 0⟩

theorem setSystemTime_shanghai :
    setSystemTime 0 0 none refreshAt1683325312 "Asia/Shanghai"
      = (some ⟨1683325312000, 5000, 0⟩, some 1683354112000) := by
  decide +kernel

/-- In Shanghai the clock is set eight hours ahead of the server. -/
theorem ntp_time_shanghai :
    ¬ ∀ (curTimezoneId : String) (offset : ℤ), getOffsetById curTimezoneId = some offset →
      ∀ (nitzUpdateTimeMili bootTimeNano : UInt64) (mTimeResult : Option TimeResult)
        (x : NtpRefresh) (time : ℤ),
        (setSystemTime nitzUpdateTimeMili bootTimeNano mTimeResult x curTimezoneId).2 = some time →
      ∀ (s : SystemTime) (env : SetTimeEnv), env.Sets time →
        (s.setTime time env).2.getWallTimeMs true
          = .ok (currentTimeMillis
              (setSystemTime nitzUpdateTimeMili bootTimeNano mTimeResult x curTimezoneId).1
              x.steadyMillis) := by
  intro hutc
  have hset := setSystemTime_shanghai
  have hread := hutc "Asia/Shanghai" 8 (by decide +kernel) 0 0 none refreshAt1683325312
    1683354112000 (by rw [hset]) ⟨⟨0, 0⟩, true, []⟩ setTimeServed (by decide)
  rw [hset] at hread
  revert hread
  decide

/-- The same call: the wall time read back is the server's plus eight hours. -/
theorem ntp_time_shifted_shanghai :
    ((⟨⟨0, 0⟩, true, []⟩ : SystemTime).setTime 1683354112000 setTimeServed).2.getWallTimeMs true
        = .ok (currentTimeMillis
            (setSystemTime 0 0 none refreshAt1683325312 "Asia/Shanghai").1 5000 + 8 * 3600000) :=
  (ntp_time_shifted (by decide +kernel) (by rw [setSystemTime_shanghai]) ⟨⟨0, 0⟩, true, []⟩
    (by decide : setTimeServed.Sets 1683354112000)).1

end TimeService
