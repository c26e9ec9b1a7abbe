import TimeService.Timer.Info
import TimeService.Lib.Wrapping

namespace TimeService

open Wrapping

/-!
# What a timer is set to

The parts of `TimerManager::SetHandler`: the clamps on the interval and on the window length, and
the trigger time that is raised to the minimum futurity.  `setHandler_fields` says once which alarm
they make.

* `interval_normalised_iff`: an interval is clamped into the range of its uid exactly when it is not
  in the upper half of the 64-bit range, where it turns negative and the timer does not repeat.
-/

/-! ### The parts -/

/-- The least interval of a repeating timer. -/
def minIntervalOf (system : Bool) : ℤ :=
  if system then minIntervalOneSeconds else minIntervalFiveSeconds

/-- The interval after its clamps. -/
def clampedInterval (system : Bool) (intervalDuration : ℤ) : ℤ :=
  if intervalDuration > 0 ∧ intervalDuration < minIntervalOf system then minIntervalOf system
  else if intervalDuration > maxInterval then maxInterval
  else intervalDuration

/-- The window length after its clamp. -/
def clampedWindowLength (windowLengthDuration : ℤ) : ℤ :=
  if windowLengthDuration > intervalHalfDay then intervalHour else windowLengthDuration

/-- The earliest trigger time that is allowed. -/
def minTrigger (system : Bool) (nowElapsed : ℤ) : ℤ :=
  if system then nowElapsed + msToNs zeroFuturity else nowElapsed + msToNs minFuturity

/-- The trigger time, raised to the earliest allowed. -/
def raisedTrigger (system : Bool) (nowElapsed nominalTrigger : ℤ) : ℤ :=
  if nominalTrigger > minTrigger system nowElapsed then nominalTrigger
  else minTrigger system nowElapsed

/-- The trigger time is raised to the minimum futurity at most. -/
theorem raisedTrigger_bounds (system : Bool) {nowElapsed nominalTrigger : ℤ}
    (h : nowElapsed ≤ nominalTrigger) :
    nominalTrigger ≤ raisedTrigger system nowElapsed nominalTrigger ∧
      (raisedTrigger system nowElapsed nominalTrigger = nominalTrigger ∨
        raisedTrigger system nowElapsed nominalTrigger ≤ nowElapsed + msToNs minFuturity) := by
  have hzero : msToNs zeroFuturity = 0 := by decide
  have hmin : msToNs minFuturity = 5000000000 := by decide
  -- system uids may ask for now, the others for five seconds ahead
  have hleast : minTrigger system nowElapsed = nowElapsed ∨
      minTrigger system nowElapsed = nowElapsed + msToNs minFuturity := by
    cases system with
    | true => exact .inl (by rw [minTrigger, if_pos rfl, hzero, add_zero])
    | false => exact .inr (if_neg (by decide))
  unfold raisedTrigger
  split
  · exact ⟨le_refl _, .inl rfl⟩
  · rename_i hraised
    have hle := not_lt.mp hraised
    refine ⟨hle, ?_⟩
    rcases hleast with hnow | hlater
    · rw [hnow] at hle ⊢
      exact .inl (le_antisymm h hle)
    · exact .inr hlater.le

/-- What `SetHandler` makes of its arguments, of the boot clock and of the converted time. -/
structure SetTo (system : Bool) (nowElapsed nominalTrigger windowLengthDuration
    intervalDuration triggerAtTime type : ℤ) (alarm : TimerInfo) : Prop where
  not_past : nowElapsed ≤ nominalTrigger
  type_eq : alarm.type = type
  origWhen_eq : alarm.origWhen = triggerAtTime
  when_eq : alarm.when = triggerAtTime
  whenElapsed_eq : alarm.whenElapsed = raisedTrigger system nowElapsed nominalTrigger
  repeatInterval_eq : alarm.repeatInterval = clampedInterval system intervalDuration
  maxWhenElapsed_eq : alarm.maxWhenElapsed
    = (setHandlerWindow nominalTrigger alarm.whenElapsed (clampedWindowLength windowLengthDuration)
      alarm.repeatInterval).1
  windowLength_eq : alarm.windowLength
    = (setHandlerWindow nominalTrigger alarm.whenElapsed (clampedWindowLength windowLengthDuration)
      alarm.repeatInterval).2

section
variable {isSystemUid : ℤ → Bool} {nowElapsed : ℤ} {clock : Clock} {id : ℕ} {type : ℤ}
  {triggerAtTime windowLength interval : ℕ} {flag : ℤ} {callback : Callback} {uid : ℤ}
  {alarm : TimerInfo}

/-- **The alarm of `SetHandler`.** -/
theorem setHandler_fields (h : setHandler isSystemUid nowElapsed clock id type triggerAtTime
      windowLength interval flag callback uid = some alarm) :
    SetTo (isSystemUid uid) nowElapsed (convertToElapsed clock (milliseconds triggerAtTime) type)
      (milliseconds windowLength) (milliseconds interval) (milliseconds triggerAtTime) type
      alarm := by
  unfold setHandler at h
  simp only at h
  split at h
  · -- a trigger time in the past sets nothing
    cases h
  · rename_i hpast
    rw [← Option.some.inj h]
    -- the fields by the lemmas of the constructor; a whole record is too large to compare
    constructor
    · exact not_lt.mp hpast
    · rw [TimerInfo.make_type]
    · rw [TimerInfo.make_origWhen]
    · rw [TimerInfo.make_when]
    · rw [TimerInfo.make_whenElapsed]
      unfold raisedTrigger minTrigger
      rfl
    · rw [TimerInfo.make_repeatInterval]
      unfold clampedInterval minIntervalOf
      rfl
    · rw [TimerInfo.make_maxWhenElapsed, TimerInfo.make_whenElapsed,
        TimerInfo.make_repeatInterval]
      unfold clampedWindowLength
      rfl
    · rw [TimerInfo.make_windowLength, TimerInfo.make_whenElapsed,
        TimerInfo.make_repeatInterval]
      unfold clampedWindowLength
      rfl

/-- **What `SetHandler` hands on.** The data of the timer, a trigger time that is not in the past
    and a window that is not empty. -/
theorem setHandler_eq_some (h : setHandler isSystemUid nowElapsed clock id type triggerAtTime
      windowLength interval flag callback uid = some alarm) :
    alarm.id = id ∧ alarm.type = type ∧ alarm.flags = BitVec.ofInt 32 flag ∧ alarm.uid = uid ∧
      alarm.callback = callback ∧ nowElapsed ≤ alarm.whenElapsed ∧
      alarm.whenElapsed ≤ alarm.maxWhenElapsed := by
  have hset := setHandler_fields h
  have hnow : nowElapsed ≤ alarm.whenElapsed := by
    rw [hset.whenElapsed_eq]
    exact hset.not_past.trans (raisedTrigger_bounds (isSystemUid uid) hset.not_past).1
  have hwindow : alarm.whenElapsed ≤ alarm.maxWhenElapsed := by
    rw [hset.maxWhenElapsed_eq]
    exact le_setHandlerWindow _ _ _ _
  unfold setHandler at h
  simp only at h
  split at h
  · -- a trigger time in the past sets nothing
    cases h
  · cases h
    exact ⟨rfl, rfl, rfl, rfl, rfl, hnow, hwindow⟩

/-- When the alarm of `SetHandler` goes off. -/
theorem setHandler_whenElapsed :
    (setHandler isSystemUid nowElapsed clock id type triggerAtTime windowLength interval flag
        callback uid).map TimerInfo.whenElapsed
      = if convertToElapsed clock (milliseconds triggerAtTime) type < nowElapsed then none
        else some (raisedTrigger (isSystemUid uid) nowElapsed
          (convertToElapsed clock (milliseconds triggerAtTime) type)) := by
  unfold setHandler
  simp only
  split
  · rfl
  · rw [Option.map_some, TimerInfo.make_whenElapsed]
    unfold raisedTrigger minTrigger
    rfl

end

/-! ### The interval -/

/-- `milliseconds(x)` of a value in the lower half of the range is the value, and of one in the
    upper half negative. -/
theorem milliseconds_toNat (x : UInt64) :
    milliseconds x.toNat = if x.toNat < 2 ^ 63 then (x.toNat : ℤ) else x.toNat - 2 ^ 64 := by
  have hlt := x.toNat_lt
  have hbits : milliseconds x.toNat = x.toBitVec.toInt := by
    have hholds := holds_toNat x.toBitVec
    rw [UInt64.toNat_toBitVec] at hholds
    exact hholds.toInt_eq.symm
  rw [hbits, BitVec.toInt_eq_toNat_cond, UInt64.toNat_toBitVec]
  split <;> split <;> omega

/-- The clamps keep zero and take every positive interval into the range. -/
theorem clampedInterval_spec (system : Bool) {i : ℤ} (h : 0 ≤ i) :
    (clampedInterval system i = 0 ↔ i = 0) ∧
      (i ≠ 0 → minIntervalOf system ≤ clampedInterval system i ∧
        clampedInterval system i ≤ maxInterval) := by
  have hmin : 0 < minIntervalOf system ∧ minIntervalOf system ≤ maxInterval := by
    cases system <;> decide
  unfold clampedInterval
  split
  · omega
  · split <;> omega

theorem clampedInterval_mono (system : Bool) {i j : ℤ} (h : i ≤ j) :
    clampedInterval system i ≤ clampedInterval system j := by
  have hmin : 0 < minIntervalOf system ∧ minIntervalOf system ≤ maxInterval := by
    cases system <;> decide
  unfold clampedInterval
  split
  · split
    · exact le_refl _
    · split <;> omega
  · split
    · split
      · omega
      · split <;> omega
    · split
      · omega
      · split <;> omega

/-- A negative interval passes the clamps unchanged. -/
theorem clampedInterval_of_neg (system : Bool) {i : ℤ} (h : i < 0) :
    clampedInterval system i = i := by
  have hmax : 0 < maxInterval := by decide
  rw [clampedInterval, if_neg (by omega), if_neg (by omega)]

/-- The alarm that is set with an interval repeats as the interval asks for: not at all for zero,
    else in the range of its uid, and no less often than for a longer interval. -/
structure RepeatsAsAsked (minInterval : ℤ) (set : UInt64 → Option TimerInfo) (interval : UInt64)
    (alarm : TimerInfo) : Prop where
  zero_iff : alarm.repeatInterval = 0 ↔ interval = 0
  repeats : interval ≠ 0 → 0 < alarm.repeatInterval
  in_range : interval ≠ 0 →
    minInterval ≤ alarm.repeatInterval ∧ alarm.repeatInterval ≤ maxInterval
  monotone : ∀ interval' ≤ interval, ∀ alarm', set interval' = some alarm' →
    alarm'.repeatInterval ≤ alarm.repeatInterval

/-- **Intervals.** For all arguments and readings with which `SetHandler` sets an alarm, it repeats
    as asked exactly when the interval is in the lower half of its 64 bits. -/
theorem interval_normalised_iff {isSystemUid : ℤ → Bool} {nowElapsed : ℤ} {clock : Clock} {id : ℕ}
    {type : ℤ} {triggerAtTime windowLength : ℕ} {interval : UInt64} {flag : ℤ}
    {callback : Callback} {uid : ℤ} {alarm : TimerInfo}
    (h : setHandler isSystemUid nowElapsed clock id type triggerAtTime windowLength interval.toNat
      flag callback uid = some alarm) :
    RepeatsAsAsked (minIntervalOf (isSystemUid uid))
        (fun interval => setHandler isSystemUid nowElapsed clock id type triggerAtTime windowLength
          interval.toNat flag callback uid) interval alarm ↔
      interval.toNat < 2 ^ 63 := by
  have hrepeat := (setHandler_fields h).repeatInterval_eq
  rw [milliseconds_toNat] at hrepeat
  constructor
  · -- an interval in the upper half is negative, and stays so
    intro hasked
    by_contra hhigh
    have hlt := interval.toNat_lt
    rw [if_neg hhigh, clampedInterval_of_neg _ (by omega)] at hrepeat
    have hne : interval ≠ 0 := by
      rintro rfl
      exact hhigh (by decide)
    have hpos := hasked.repeats hne
    omega
  · intro hlow
    rw [if_pos hlow] at hrepeat
    obtain ⟨hzero, hrange⟩ := clampedInterval_spec (isSystemUid uid)
      (Int.natCast_nonneg interval.toNat)
    have hne_iff : (interval.toNat : ℤ) = 0 ↔ interval = 0 := by
      rw [Int.natCast_eq_zero, ← UInt64.toNat_inj, UInt64.toNat_zero]
    rw [← hrepeat, hne_iff] at hzero
    rw [← hrepeat, Ne, hne_iff] at hrange
    have hmin : 0 < minIntervalOf (isSystemUid uid) := by
      cases isSystemUid uid <;> decide
    refine ⟨hzero, fun hne => hmin.trans_le (hrange hne).1, hrange, ?_⟩
    intro interval' hle alarm' h'
    -- a shorter interval is in the lower half as well
    have hle' := UInt64.le_iff_toNat_le.mp hle
    have hrepeat' := (setHandler_fields h').repeatInterval_eq
    rw [milliseconds_toNat, if_pos (by omega)] at hrepeat'
    rw [hrepeat, hrepeat']
    exact clampedInterval_mono _ (by exact_mod_cast hle')

/-- A daily timer of an application. -/
theorem interval_normalised_daily :
    ∃ alarm, setHandler (fun _ => false) 0 ⟨0, 0⟩ 1 3 5000 0 (86400000 : UInt64).toNat 0 none 20010
        = some alarm ∧ 0 < alarm.repeatInterval := by
  have hset : (setHandler (fun _ => false) 0 ⟨0, 0⟩ 1 3 5000 0 (86400000 : UInt64).toNat 0 none
      20010).isSome = true := by decide
  obtain ⟨alarm, halarm⟩ := Option.isSome_iff_exists.mp hset
  exact ⟨alarm, halarm,
    ((interval_normalised_iff halarm).mpr (by decide)).repeats (by decide)⟩

/-- Asked for every `2 ^ 63` ms, the timer does not repeat. -/
theorem interval_turned_negative :
    ¬ ∀ (isSystemUid : ℤ → Bool) (nowElapsed : ℤ) (clock : Clock) (id : ℕ) (type : ℤ)
      (triggerAtTime windowLength : ℕ) (interval : UInt64) (flag : ℤ) (callback : Callback)
      (uid : ℤ) (alarm : TimerInfo),
      setHandler isSystemUid nowElapsed clock id type triggerAtTime windowLength interval.toNat
        flag callback uid = some alarm →
      RepeatsAsAsked (minIntervalOf (isSystemUid uid))
        (fun interval => setHandler isSystemUid nowElapsed clock id type triggerAtTime windowLength
          interval.toNat flag callback uid) interval alarm := by
  intro hclaim
  have hset : (setHandler (fun _ => false) 0 ⟨0, 0⟩ 1 3 5000 0
      (9223372036854775808 : UInt64).toNat 0 none 20010).map TimerInfo.repeatInterval
        = some (-9223372036854775808) := by decide
  obtain ⟨alarm, halarm, hrepeat⟩ := Option.map_eq_some_iff.mp hset
  have hpos := (hclaim _ _ _ _ _ _ _ _ _ _ _ alarm halarm).repeats (by decide)
  rw [hrepeat] at hpos
  exact absurd hpos (by decide)

end TimeService
