import TimeService.Lib.Decimal
import TimeService.Zone.TimeZoneInfo

namespace TimeService

/-!
# What `TZ` means

`SetOffsetToKernel` prints a fixed minus sign before the signed number of hours.  The C library
reads `TZ` as an alphabetic name, at most one sign and a decimal number of hours west of Greenwich
(`tzHoursWest`).

* `tzSetting_denotes_iff`: the text denotes the offset exactly for the zones at or east of
  Greenwich.
-/

/-- The hours west of Greenwich that a `TZ` value denotes; `none` when it is malformed. -/
def tzHoursWest (tz : List Char) : Option ℤ :=
  if tz.takeWhile Char.isAlpha = [] then none else
  match tz.dropWhile Char.isAlpha with
  | '-' :: hours => (Decimal.read hours).map fun n => -(n : ℤ)
  | '+' :: hours => (Decimal.read hours).map fun n => (n : ℤ)
  | hours => (Decimal.read hours).map fun n => (n : ℤ)

/-- The difference of local time to UTC, in milliseconds, when the variable `TZ` has this value. -/
def kernelOffsetMs (tz : Option String) : Option ℤ :=
  tz.bind fun tz => (tzHoursWest tz.toList).map fun west => -west * 3600000

/-- The name and the fixed sign are read off. -/
theorem tzHoursWest_tzSetting (offsetHour : ℤ) :
    tzHoursWest (tzSetting offsetHour).toList
      = (Decimal.read (toString offsetHour).toList).map fun n => -(n : ℤ) := by
  have htext : (tzSetting offsetHour).toList
      = 'U' :: 'T' :: 'C' :: '-' :: (toString offsetHour).toList := by
    simp [tzSetting]
  rw [htext]
  rfl

/-- **The setting east of Greenwich.** -/
theorem tzHoursWest_of_nonneg {offsetHour : ℤ} (h : 0 ≤ offsetHour) :
    tzHoursWest (tzSetting offsetHour).toList = some (-offsetHour) := by
  obtain ⟨n, rfl⟩ := Int.eq_ofNat_of_zero_le h
  have htext : (toString (n : ℤ)).toList = Nat.toDigits 10 n := Nat.toList_repr
  rw [tzHoursWest_tzSetting, htext, Decimal.read_toDigits]
  rfl

/-- West of Greenwich the number brings a second sign. -/
theorem tzHoursWest_of_neg {offsetHour : ℤ} (h : offsetHour < 0) :
    tzHoursWest (tzSetting offsetHour).toList = none := by
  obtain ⟨n, rfl⟩ := Int.eq_negSucc_of_lt_zero h
  have htext : (toString (Int.negSucc n)).toList = '-' :: Nat.toDigits 10 (n + 1) := by
    rw [Int.toString_eq_repr, Int.repr_eq_if]
    simp
  rw [tzHoursWest_tzSetting, htext, Decimal.read_cons_of_not_isDigit (by decide)]
  rfl

/-- **The meaning of `TZ`.** For every number of hours the text is well formed and denotes local
    time = UTC + hours exactly when the number is not negative.  For every zone that `SetTimezone`
    accepts, the offset of `TZ` is that of `GetCurrentOffsetMs` exactly when that is not negative.
    -/
theorem tzSetting_denotes_iff (json : JsonCodec) :
    (∀ offsetHour : ℤ,
      tzHoursWest (tzSetting offsetHour).toList = some (-offsetHour) ↔ 0 ≤ offsetHour) ∧
    ∀ (z z' : TimeZoneInfo) (timezoneId : String) (setenvOk : Bool) (save : SaveOutcome),
      z.setTimezone json timezoneId setenvOk save = (true, z') →
      (kernelOffsetMs z'.tz = some (getCurrentOffsetMs z'.curTimezoneId)
        ↔ 0 ≤ getCurrentOffsetMs z'.curTimezoneId) := by
  constructor
  · intro offsetHour
    rcases Int.lt_or_le offsetHour 0 with hneg | hnonneg
    · simp [tzHoursWest_of_neg hneg, hneg]
    · simp [tzHoursWest_of_nonneg hnonneg, hnonneg]
  · intro z z' timezoneId setenvOk save hset
    -- an accepted zone has been put into `TZ` with its offset
    rcases z.setTimezone_cases timezoneId setenvOk save with
      ⟨hrefused, _⟩ | ⟨offset, hoffset, _, heq⟩
    · rw [hset] at hrefused
      cases hrefused
    · rw [hset] at heq
      obtain ⟨-, rfl⟩ := Prod.mk.inj heq
      have hcurrent : getCurrentOffsetMs timezoneId = offset * 3600000 := by
        rw [getCurrentOffsetMs, hoffset, Option.getD_some]
      show (tzHoursWest (tzSetting offset).toList).map (fun west => -west * 3600000)
        = some (getCurrentOffsetMs timezoneId) ↔ 0 ≤ getCurrentOffsetMs timezoneId
      rw [hcurrent]
      rcases Int.lt_or_le offset 0 with hneg | hnonneg
      · rw [tzHoursWest_of_neg hneg]
        simp
        omega
      · rw [tzHoursWest_of_nonneg hnonneg]
        simp
        omega

/-- Three hours west of Greenwich: `SetTimezone` accepts the zone, and `TZ` is malformed. -/
theorem tzSetting_buenos_aires :
    (tzSetting (-3) = "UTC--3" ∧ tzHoursWest (tzSetting (-3)).toList ≠ some 3) ∧
    ∀ (json : JsonCodec) (z : TimeZoneInfo),
      (z.setTimezone json "America/Argentina/Buenos_Aires" true .notOpened).1 = true ∧
      kernelOffsetMs (z.setTimezone json "America/Argentina/Buenos_Aires" true .notOpened).2.tz
        = none ∧
      getCurrentOffsetMs "America/Argentina/Buenos_Aires" = -10800000 := by
  have hwest : tzHoursWest (tzSetting (-3)).toList = none := tzHoursWest_of_neg (by decide)
  have hoffset : getOffsetById "America/Argentina/Buenos_Aires" = some (-3) := by decide +kernel
  refine ⟨⟨by decide +kernel, by simp [hwest]⟩, fun json z => ⟨?_, ?_, ?_⟩⟩
  · unfold TimeZoneInfo.setTimezone
    rw [hoffset]
    rfl
  · unfold TimeZoneInfo.setTimezone
    rw [hoffset]
    show (tzHoursWest (tzSetting (-3)).toList).map (fun west => -west * 3600000) = none
    rw [hwest]
    rfl
  · rw [getCurrentOffsetMs, hoffset]
    rfl

end TimeService
