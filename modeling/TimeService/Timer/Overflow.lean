import TimeService.Timer.SetHandler

namespace TimeService

open Wrapping

/-!
# Trigger times on 64-bit words

`ConvertToElapsed` and the trigger time of `SetHandler` with the arithmetic of the code: times are
64-bit counts of nanoseconds that wrap, and the `uint64_t` milliseconds of the caller become signed.

* `convertWords_holds`: the wrapped conversion is the residue of the exact instant;
* `setHandlerWords_eq`: where nothing wraps the words have the values of the unbounded model;
* `not_before_requested_iff`: no alarm is scheduled before the requested instant exactly when that
  instant fits, or wraps to the past and is refused.
-/

/-- `TimerManager::ConvertToElapsed` on words. -/
def convertToElapsedWords (boot rtc : Int64) (when : Int64) (type : ℤ) : Int64 :=
  if type = TimerType.rtc.value ∨ type = TimerType.rtcWakeup.value then
    let offset := when * 1000000 - rtc
    boot + offset
  else
    let offset := when * 1000000 - boot
    boot + offset

/-- The least trigger time of `TimerManager::SetHandler` on words. -/
def minTriggerWords (system : Bool) (nowElapsed : Int64) : Int64 :=
  if system then nowElapsed + 0 * 1000000 else nowElapsed + 5000 * 1000000

/-- The trigger time of `TimerManager::SetHandler` on words, or `none` when it returns early. -/
def setHandlerWords (system : Bool) (nowElapsed boot rtc : Int64) (triggerAtTime : UInt64)
    (type : ℤ) : Option Int64 :=
  let nominalTrigger := convertToElapsedWords boot rtc triggerAtTime.toInt64 type
  if nominalTrigger < nowElapsed then none
  else
    let minTrigger := minTriggerWords system nowElapsed
    some (if nominalTrigger > minTrigger then nominalTrigger else minTrigger)

/-- The instant that a caller asks for, on the boot clock: `triggerAtTime` milliseconds on the clock
    of the type. -/
def requestedInstant (boot rtc : ℤ) (triggerAtTime : ℕ) (type : ℤ) : ℤ :=
  if type = TimerType.rtc.value ∨ type = TimerType.rtcWakeup.value then
    boot + (msToNs triggerAtTime - rtc)
  else msToNs triggerAtTime

/-! ### The words hold the exact values -/

/-- The converted word is the residue of the exact instant, however often it has wrapped. -/
theorem convertWords_holds (boot rtc : Int64) (triggerAtTime : UInt64) (type : ℤ) :
    Holds (convertToElapsedWords boot rtc triggerAtTime.toInt64 type).toBitVec
      (requestedInstant boot.toInt rtc.toInt triggerAtTime.toNat type) := by
  have hns : Holds (triggerAtTime.toInt64 * 1000000).toBitVec (msToNs triggerAtTime.toNat) :=
    (holds_toNat triggerAtTime.toBitVec).mul (holds_toInt (1000000 : Int64).toBitVec)
  have hboot : Holds boot.toBitVec boot.toInt := holds_toInt boot.toBitVec
  unfold convertToElapsedWords requestedInstant
  split
  · exact hboot.add (hns.sub (holds_toInt rtc.toBitVec))
  · -- the boot clock cancels
    have hcancel : boot.toInt + (msToNs triggerAtTime.toNat - boot.toInt)
        = msToNs triggerAtTime.toNat := add_sub_cancel _ _
    have hsum := hboot.add (hns.sub hboot)
    rw [hcancel] at hsum
    exact hsum

/-- The least trigger time has the value of the integers when it fits. -/
theorem minTriggerWords_toInt (system : Bool) {nowElapsed : Int64}
    (h : nowElapsed.toInt + msToNs minFuturity < 2 ^ 63) :
    (minTriggerWords system nowElapsed).toInt = minTrigger system nowElapsed.toInt := by
  have hlow := nowElapsed.le_toInt
  have hnow : Holds nowElapsed.toBitVec nowElapsed.toInt := holds_toInt nowElapsed.toBitVec
  have hmin : msToNs minFuturity = 5000000000 := by decide
  rw [hmin] at h
  cases system with
  | true =>
    have hsum : Holds (nowElapsed + 0 * 1000000).toBitVec
        (nowElapsed.toInt + msToNs zeroFuturity) :=
      hnow.add (holds_toInt (0 * 1000000 : Int64).toBitVec)
    have hzero : msToNs zeroFuturity = 0 := by decide
    exact hsum.toInt_of_fits (by decide) (by omega) (by omega)
  | false =>
    have hsum : Holds (nowElapsed + 5000 * 1000000).toBitVec
        (nowElapsed.toInt + msToNs minFuturity) :=
      hnow.add (holds_toInt (5000 * 1000000 : Int64).toBitVec)
    exact hsum.toInt_of_fits (by decide) (by omega) (by omega)

/-- A timer is refused or scheduled, and never scheduled before its converted time. -/
theorem setHandlerWords_cases (system : Bool) (nowElapsed boot rtc : Int64)
    (triggerAtTime : UInt64) (type : ℤ) :
    ((convertToElapsedWords boot rtc triggerAtTime.toInt64 type).toInt < nowElapsed.toInt ∧
        setHandlerWords system nowElapsed boot rtc triggerAtTime type = none) ∨
      (nowElapsed.toInt ≤ (convertToElapsedWords boot rtc triggerAtTime.toInt64 type).toInt ∧
        ∃ whenElapsed,
          setHandlerWords system nowElapsed boot rtc triggerAtTime type = some whenElapsed ∧
          (convertToElapsedWords boot rtc triggerAtTime.toInt64 type).toInt
            ≤ whenElapsed.toInt) := by
  unfold setHandlerWords
  simp only
  generalize convertToElapsedWords boot rtc triggerAtTime.toInt64 type = nominalTrigger
  generalize minTriggerWords system nowElapsed = minTrigger
  by_cases hpast : nominalTrigger < nowElapsed
  · exact .inl ⟨Int64.lt_iff_toInt_lt.mp hpast, if_pos hpast⟩
  · refine .inr ⟨?_, _, if_neg hpast, ?_⟩
    · rw [Int64.lt_iff_toInt_lt] at hpast
      exact not_lt.mp hpast
    · split
      · exact le_refl (nominalTrigger.toInt)
      · rename_i hraised
        rw [gt_iff_lt, Int64.lt_iff_toInt_lt] at hraised
        exact not_lt.mp hraised

/-- **Trigger times that wrap.** For every request and all readings of the clocks: no alarm is
    scheduled before the requested instant exactly when that instant fits into 64 bits, or its
    residue has passed and the request is refused. -/
theorem not_before_requested_iff (system : Bool) (nowElapsed boot rtc : Int64)
    (triggerAtTime : UInt64) (type : ℤ) :
    (∀ whenElapsed,
        setHandlerWords system nowElapsed boot rtc triggerAtTime type = some whenElapsed →
        requestedInstant boot.toInt rtc.toInt triggerAtTime.toNat type ≤ whenElapsed.toInt) ↔
      requestedInstant boot.toInt rtc.toInt triggerAtTime.toNat type < 2 ^ 63 ∨
        (requestedInstant boot.toInt rtc.toInt triggerAtTime.toNat type).bmod (2 ^ 64)
          < nowElapsed.toInt := by
  have hholds := convertWords_holds boot rtc triggerAtTime type
  have hbmod : (convertToElapsedWords boot rtc triggerAtTime.toInt64 type).toInt
      = (requestedInstant boot.toInt rtc.toInt triggerAtTime.toNat type).bmod (2 ^ 64) :=
    hholds.toInt_eq
  have hle : requestedInstant boot.toInt rtc.toInt triggerAtTime.toNat type
        ≤ (convertToElapsedWords boot rtc triggerAtTime.toInt64 type).toInt ↔
      requestedInstant boot.toInt rtc.toInt triggerAtTime.toNat type < 2 ^ 63 :=
    hholds.le_toInt_iff (by decide)
  rw [← hbmod, ← hle]
  rcases setHandlerWords_cases system nowElapsed boot rtc triggerAtTime type with
    ⟨hpast, hnone⟩ | ⟨hnot, whenElapsed, hsome, hraised⟩
  · -- a refused request schedules nothing
    refine ⟨fun _ => .inr hpast, fun _ whenElapsed hset => ?_⟩
    rw [hnone] at hset
    cases hset
  · constructor
    · -- an alarm at a word cannot be as late as an instant that does not fit
      intro hafter
      have hrequested := hafter whenElapsed hsome
      have hword := whenElapsed.toInt_lt
      exact .inl (hle.mpr (by omega))
    · rintro (hfits | hpast) whenElapsed' hset
      · rw [hsome] at hset
        cases hset
        exact hfits.trans hraised
      · omega

/-- A twentieth of a second after the boot, a request for 584 years after the boot is scheduled for
    the next twentieth. -/
theorem far_request_fires_at_once :
    ¬ ∀ (system : Bool) (nowElapsed boot rtc : Int64) (triggerAtTime : UInt64) (type : ℤ)
      (whenElapsed : Int64),
      setHandlerWords system nowElapsed boot rtc triggerAtTime type = some whenElapsed →
      requestedInstant boot.toInt rtc.toInt triggerAtTime.toNat type ≤ whenElapsed.toInt := by
  intro hclaim
  have hset : setHandlerWords true 50000000 50000000 0 18446744073810 3 = some 100448384 := by
    decide
  have hafter := hclaim true 50000000 50000000 0 18446744073810 3 100448384 hset
  revert hafter
  decide

/-! ### The words and the integers -/

/-- Where the requested instant fits, its milliseconds keep their sign. -/
private theorem requestedInstant_eq_convertToElapsed {boot rtc : Int64} {triggerAtTime : UInt64}
    {type : ℤ}
    (h : requestedInstant boot.toInt rtc.toInt triggerAtTime.toNat type < 2 ^ 63) :
    convertToElapsed ⟨boot.toInt, rtc.toInt⟩ (milliseconds triggerAtTime.toNat) type
      = requestedInstant boot.toInt rtc.toInt triggerAtTime.toNat type := by
  have hboot := boot.le_toInt
  have hrtc := rtc.toInt_lt
  have hms : milliseconds triggerAtTime.toNat = triggerAtTime.toNat := by
    rw [milliseconds_toNat, if_pos]
    unfold requestedInstant msToNs at h
    split at h <;> omega
  unfold convertToElapsed requestedInstant
  rw [hms]
  split
  · rfl
  · show boot.toInt + (msToNs triggerAtTime.toNat - boot.toInt) = msToNs triggerAtTime.toNat
    rw [add_sub_cancel]

/-- **The words and the integers.** Where the requested instant and the least trigger time fit, the
    words have the values of the unbounded model. -/
theorem setHandlerWords_eq {isSystemUid : ℤ → Bool} {nowElapsed boot rtc : Int64} {id : ℕ}
    {type : ℤ} {triggerAtTime : UInt64} {windowLength interval : ℕ} {flag : ℤ}
    {callback : Callback} {uid : ℤ}
    (hlow : -2 ^ 63 ≤ requestedInstant boot.toInt rtc.toInt triggerAtTime.toNat type)
    (hhigh : requestedInstant boot.toInt rtc.toInt triggerAtTime.toNat type < 2 ^ 63)
    (hnow : nowElapsed.toInt + msToNs minFuturity < 2 ^ 63) :
    (setHandlerWords (isSystemUid uid) nowElapsed boot rtc triggerAtTime type).map Int64.toInt
      = (setHandler isSystemUid nowElapsed.toInt ⟨boot.toInt, rtc.toInt⟩ id type
          triggerAtTime.toNat windowLength interval flag callback uid).map
            TimerInfo.whenElapsed := by
  have hnominal : (convertToElapsedWords boot rtc triggerAtTime.toInt64 type).toInt
      = convertToElapsed ⟨boot.toInt, rtc.toInt⟩ (milliseconds triggerAtTime.toNat) type := by
    rw [requestedInstant_eq_convertToElapsed hhigh]
    exact (convertWords_holds boot rtc triggerAtTime type).toInt_of_fits (by decide) hlow hhigh
  rw [setHandler_whenElapsed, ← hnominal]
  unfold setHandlerWords raisedTrigger
  rw [← minTriggerWords_toInt (isSystemUid uid) hnow]
  simp only [Int64.lt_iff_toInt_lt, gt_iff_lt]
  split
  · rfl
  · rw [Option.map_some]
    split
    · rfl
    · rfl

end TimeService
