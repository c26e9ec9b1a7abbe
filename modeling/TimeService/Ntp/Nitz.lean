import TimeService.Ntp.AutoTime

namespace TimeService

open Transition

/-!
# The mobile network's time

`UpdateNITZSetTime` notes when the mobile network has set the time, and `SetSystemTime` then leaves
the clock alone for a day.  The note is eight hours ahead of the clock it is compared with, and the
comparison is unsigned, so the day starts eight hours late.

* `nitz_window_late`: in every run without another update the day runs from the eighth hour to the
  thirty-second, and never starts with the update.
-/

/-- A call of `SetSystemTime` at this time returns without asking the server. -/
def NtpUpdateTime.Skips (s : NtpUpdateTime) (bootTimeNano : UInt64) : Prop :=
  ∀ caller write,
    s.startSetSystemTime caller bootTimeNano write = s.afterSetSystemTime caller write

theorem NtpUpdateTime.skips_iff {s : NtpUpdateTime} {bootTimeNano : UInt64} :
    s.Skips bootTimeNano ↔ isNITZTimeInvalid s.nitzUpdateTimeMili bootTimeNano = true := by
  constructor
  · intro h
    by_contra hnitz
    -- the call would be among the waiting ones
    have hwaiting := congrArg NtpUpdateTime.waiting (h .network .notOpened)
    rw [NtpUpdateTime.startSetSystemTime, if_neg hnitz] at hwaiting
    have hlength : (s.waiting ++ [SetSystemTimeCaller.network]).length = s.waiting.length :=
      congrArg List.length hwaiting
    simp at hlength
  · intro hnitz caller write
    rw [NtpUpdateTime.startSetSystemTime, if_pos hnitz]

/-- The times from an update on at which the server is not asked start with the update and have no
    gap. -/
structure NtpUpdateTime.NitzFirst (s : NtpUpdateTime) (updateTime : UInt64) : Prop where
  at_once : s.Skips updateTime
  interval : ∀ t t', updateTime ≤ t → t ≤ t' → ¬ s.Skips t → ¬ s.Skips t'

/-! ### The note over a run -/

/-- The steps that are not another update. -/
def NoNitz (_ : NtpUpdateTime) : AutoTimeAction → Prop
  | .updateNITZSetTime _ => False
  | _ => True

section
variable (s : NtpUpdateTime)

@[simp] theorem NtpUpdateTime.saveAutoTimeInfoToFile_nitzUpdateTimeMili (write : FileWrite) :
    (s.saveAutoTimeInfoToFile write).nitzUpdateTimeMili = s.nitzUpdateTimeMili := by
  cases write <;> rfl

@[simp] theorem NtpUpdateTime.afterSetSystemTime_nitzUpdateTimeMili (caller : SetSystemTimeCaller)
    (write : FileWrite) :
    (s.afterSetSystemTime caller write).nitzUpdateTimeMili = s.nitzUpdateTimeMili := by
  cases caller <;> simp [NtpUpdateTime.afterSetSystemTime]

@[simp] theorem NtpUpdateTime.startSetSystemTime_nitzUpdateTimeMili (caller : SetSystemTimeCaller)
    (bootTimeNano : UInt64) (write : FileWrite) :
    (s.startSetSystemTime caller bootTimeNano write).nitzUpdateTimeMili
      = s.nitzUpdateTimeMili := by
  unfold NtpUpdateTime.startSetSystemTime
  split
  · rw [NtpUpdateTime.afterSetSystemTime_nitzUpdateTimeMili]
  · rfl

@[simp] theorem NtpUpdateTime.finishSetSystemTime_nitzUpdateTimeMili (caller : SetSystemTimeCaller)
    (refresh : NtpRefresh) (curTimezoneId : String) (env : SetTimeEnv) (write : FileWrite) :
    (s.finishSetSystemTime caller refresh curTimezoneId env write).nitzUpdateTimeMili
      = s.nitzUpdateTimeMili := by
  unfold NtpUpdateTime.finishSetSystemTime
  rw [NtpUpdateTime.afterSetSystemTime_nitzUpdateTimeMili]
  cases (refreshSystemTime s.mTimeResult refresh curTimezoneId).2 <;> rfl

end

theorem NtpUpdateTime.step_nitzUpdateTimeMili {s s' : NtpUpdateTime} {a : AutoTimeAction}
    (hok : NoNitz s a) (hstep : s.step a = some s') :
    s'.nitzUpdateTimeMili = s.nitzUpdateTimeMili := by
  cases NtpUpdateTime.stepCase hstep with
  | idle => rfl
  | updateStatusOff write =>
    rw [NtpUpdateTime.updateStatusOff, NtpUpdateTime.saveAutoTimeInfoToFile_nitzUpdateTimeMili]
  | switchOn bootTimeNano write => simp
  | timer bootTimeNano write _ => simp
  | network bootTimeNano => simp
  | updateNITZSetTime bootTimeNano => exact hok.elim
  | finish place refresh curTimezoneId env write caller hcaller => simp

/-- The note stays until the next update. -/
theorem nitzUpdateTimeMili_of_run {s s' : NtpUpdateTime}
    (h : Reaches NtpUpdateTime.step NoNitz s s') :
    s'.nitzUpdateTimeMili = s.nitzUpdateTimeMili := by
  refine @Reaches.invariant _ _ _ _ _ _
    (fun t : NtpUpdateTime => t.nitzUpdateTimeMili = s.nitzUpdateTimeMili) h ?_ rfl
  intro t a t' ht hok hstep
  exact (NtpUpdateTime.step_nitzUpdateTimeMili hok hstep).trans ht

/-! ### The day -/

/-- Before the noted time the unsigned difference wraps far above a day. -/
theorem isNITZTimeInvalid_iff (updateTime bootTimeNano : UInt64) :
    isNITZTimeInvalid (updateTime / 1000000 + 28800000) bootTimeNano = true ↔
      updateTime.toNat / 1000000 + 28800000 ≤ bootTimeNano.toNat / 1000000 ∧
        bootTimeNano.toNat / 1000000 < updateTime.toNat / 1000000 + 115200000 := by
  have hupdate := updateTime.toNat_lt
  have hboot := bootTimeNano.toNat_lt
  -- the sum cannot wrap: the quotient leaves room
  have hnote : (updateTime / 1000000 + 28800000).toNat
      = updateTime.toNat / 1000000 + 28800000 := by
    rw [UInt64.toNat_add, UInt64.toNat_div]
    show (updateTime.toNat / 1000000 + 28800000) % 2 ^ 64 = updateTime.toNat / 1000000 + 28800000
    exact Nat.mod_eq_of_lt (by omega)
  have hne : updateTime / 1000000 + 28800000 ≠ 0 := by
    intro hzero
    rw [hzero, UInt64.toNat_zero] at hnote
    omega
  rw [isNITZTimeInvalid, if_neg hne, decide_eq_true_iff, UInt64.lt_iff_toNat_lt,
    UInt64.toNat_sub, hnote, UInt64.toNat_div]
  show (2 ^ 64 - (updateTime.toNat / 1000000 + 28800000) + bootTimeNano.toNat / 1000000) % 2 ^ 64
    < 86400000 ↔ _
  omega

/-- **The day starts late.** In every run without another update the server is not asked exactly
    from the eighth hour after the update to the thirty-second; so it is asked right after the
    update, for every time of the update. -/
theorem nitz_window_late {s s' : NtpUpdateTime} {updateTime : UInt64}
    (h : Reaches NtpUpdateTime.step NoNitz (s.updateNITZSetTime updateTime) s') :
    ¬ s'.NitzFirst updateTime ∧
      ∀ t, s'.Skips t ↔
        updateTime.toNat / 1000000 + 28800000 ≤ t.toNat / 1000000 ∧
          t.toNat / 1000000 < updateTime.toNat / 1000000 + 115200000 := by
  have hnote : s'.nitzUpdateTimeMili = updateTime / 1000000 + 28800000 := by
    rw [nitzUpdateTimeMili_of_run h]
    unfold NtpUpdateTime.updateNITZSetTime
    rfl
  have hskips : ∀ t, s'.Skips t ↔
      updateTime.toNat / 1000000 + 28800000 ≤ t.toNat / 1000000 ∧
        t.toNat / 1000000 < updateTime.toNat / 1000000 + 115200000 := by
    intro t
    rw [NtpUpdateTime.skips_iff, hnote, isNITZTimeInvalid_iff]
  refine ⟨fun hfirst => ?_, hskips⟩
  have hnow := (hskips updateTime).mp hfirst.at_once
  omega

/-- The update an hour after the boot, with no event behind it. -/
theorem nitz_window_late_hour :
    ¬ (autoTimeOn.updateNITZSetTime 3600000000000).NitzFirst 3600000000000 :=
  (nitz_window_late Reaches.refl).1

/-- An hour after that update the server is asked, nine hours after it the server is not. -/
theorem nitz_overwritten :
    ¬ ∀ (s s' : NtpUpdateTime) (updateTime : UInt64),
      Reaches NtpUpdateTime.step NoNitz (s.updateNITZSetTime updateTime) s' →
      s'.Skips updateTime ∧
        ∀ t t', updateTime ≤ t → t ≤ t' → ¬ s'.Skips t → ¬ s'.Skips t' := by
  intro hclaim
  have hgap := (hclaim autoTimeOn _ 3600000000000 Reaches.refl).2 7200000000000 36000000000000
    (by decide) (by decide)
  rw [NtpUpdateTime.skips_iff, NtpUpdateTime.skips_iff] at hgap
  revert hgap
  unfold NtpUpdateTime.updateNITZSetTime
  decide

end TimeService
