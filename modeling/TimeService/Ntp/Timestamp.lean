import TimeService.Ntp.SntpClient
import TimeService.Lib.Wrapping
import Mathlib.Data.Rat.Floor
import Mathlib.Tactic.Linarith

namespace TimeService

open Wrapping

/-!
# Timestamps

The two conversions of `sntp_client.cpp` between the time of day and the timestamps of the protocol.

* `convertNtpToStamp_exact`: the stamp of a timestamp is its exact number of milliseconds since
  1970, on both sides of 1970, although the unsigned words wrap on the way; so it is monotone;
* `survivesNtp_iff`: a time of day survives the way through the protocol except in the last
  microsecond of a second, whose fraction is one whole second and is cut off.
-/

/-! ### From a timestamp to milliseconds -/

/-- The milliseconds since 1970 of a timestamp with these seconds since 1900 and this fraction in
    units of `2 ^ -32` s, rounded down. -/
def stampMillis (second fraction : ℤ) : ℤ :=
  (second - 2208988800) * 1000 + fraction * 1000 / 2 ^ 32

private theorem second_toNat (ntpTs : UInt64) :
    ((ntpTs >>> 32) &&& 0xFFFFFFFF).toUInt32.toNat = ntpTs.toNat / 2 ^ 32 := by
  have hlt := ntpTs.toNat_lt
  rw [UInt64.toNat_toUInt32, UInt64.toNat_and, UInt64.toNat_shiftRight]
  show (ntpTs.toNat >>> 32 &&& (2 ^ 32 - 1)) % 2 ^ 32 = ntpTs.toNat / 2 ^ 32
  rw [Nat.and_two_pow_sub_one_eq_mod, Nat.shiftRight_eq_div_pow]
  omega

private theorem fraction_toNat (ntpTs : UInt64) :
    (ntpTs &&& 0xFFFFFFFF).toUInt32.toNat = ntpTs.toNat % 2 ^ 32 := by
  rw [UInt64.toNat_toUInt32, UInt64.toNat_and]
  show (ntpTs.toNat &&& (2 ^ 32 - 1)) % 2 ^ 32 = ntpTs.toNat % 2 ^ 32
  rw [Nat.and_two_pow_sub_one_eq_mod, Nat.mod_mod]

/-- The scaled fraction is small enough for its word. -/
private theorem holds_scaledFraction (fraction : UInt32) :
    Holds (fraction.toUInt64 * 1000 / 0x100000000).toBitVec
      ((fraction.toNat : ℤ) * 1000 / 2 ^ 32) := by
  have hlt := fraction.toNat_lt
  have hnat : (fraction.toUInt64 * 1000 / 0x100000000).toNat = fraction.toNat * 1000 / 2 ^ 32 := by
    rw [UInt64.toNat_div, UInt64.toNat_mul, UInt32.toNat_toUInt64]
    show fraction.toNat * 1000 % 2 ^ 64 / 2 ^ 32 = fraction.toNat * 1000 / 2 ^ 32
    rw [Nat.mod_eq_of_lt (by omega)]
  have hholds := holds_toNat (fraction.toUInt64 * 1000 / 0x100000000).toBitVec
  rw [UInt64.toNat_toBitVec, hnat] at hholds
  exact_mod_cast hholds

/-- Before 1970 the difference of the seconds wraps, and the product again; the sum read as a signed
    number has the value of the integers. -/
private theorem toInt_stamp (second fraction : UInt32) :
    ((second.toUInt64 - secondsSinceFirstEpoch) * 1000
        + fraction.toUInt64 * 1000 / 0x100000000).toInt64.toInt
      = stampMillis second.toNat fraction.toNat := by
  have hsecond := second.toNat_lt
  have hfraction := fraction.toNat_lt
  have hword : Holds second.toUInt64.toBitVec second.toNat := by
    have hholds := holds_toNat second.toUInt64.toBitVec
    rwa [UInt64.toNat_toBitVec, UInt32.toNat_toUInt64] at hholds
  -- the word of the result holds the value, by the residues of its parts
  have hsum := ((hword.sub (holds_toNat secondsSinceFirstEpoch.toBitVec)).mul
    (holds_toNat (1000 : UInt64).toBitVec)).add (holds_scaledFraction fraction)
  have hvalue : ((second.toNat : ℤ) - (secondsSinceFirstEpoch.toBitVec.toNat : ℤ))
        * ((1000 : UInt64).toBitVec.toNat : ℤ) + (fraction.toNat : ℤ) * 1000 / 2 ^ 32
      = stampMillis second.toNat fraction.toNat := rfl
  rw [hvalue] at hsum
  refine hsum.toInt_of_fits (by decide) ?_ ?_
  · unfold stampMillis
    omega
  · unfold stampMillis
    omega

theorem convertNtpToStamp_eq {ntpTs : UInt64} (h : ntpTs ≠ 0) :
    convertNtpToStamp ntpTs
      = stampMillis (ntpTs.toNat / 2 ^ 32 : ℕ) (ntpTs.toNat % 2 ^ 32 : ℕ) := by
  rw [← second_toNat, ← fraction_toNat]
  unfold convertNtpToStamp
  simp only
  split
  · rename_i hzero
    -- both halves are zero only in the zero timestamp
    have hsecond := second_toNat ntpTs
    have hfraction := fraction_toNat ntpTs
    rw [hzero.1, UInt32.toNat_zero] at hsecond
    rw [hzero.2, UInt32.toNat_zero] at hfraction
    have hnat : ntpTs.toNat = (0 : UInt64).toNat := by
      rw [UInt64.toNat_zero]
      omega
    exact absurd (UInt64.toNat_inj.mp hnat) h
  · exact toInt_stamp _ _

/-- The stamps of the two words in their order. -/
theorem stampMillis_mono {a b : ℕ} (h : a ≤ b) :
    stampMillis (a / 2 ^ 32 : ℕ) (a % 2 ^ 32 : ℕ)
      ≤ stampMillis (b / 2 ^ 32 : ℕ) (b % 2 ^ 32 : ℕ) := by
  unfold stampMillis
  omega

/-- **Stamps are exact.** For every timestamp other than zero the stamp is the number of
    milliseconds since 1970, which is in the range of the result type; and a later timestamp has no
    earlier stamp. -/
theorem convertNtpToStamp_exact {ntpTs ntpTs' : UInt64} (h : ntpTs ≠ 0) (h' : ntpTs' ≠ 0) :
    convertNtpToStamp ntpTs
        = ((ntpTs.toNat / 2 ^ 32 : ℕ) - 2208988800) * 1000
          + (ntpTs.toNat % 2 ^ 32 : ℕ) * 1000 / 2 ^ 32 ∧
      (-2 ^ 63 ≤ convertNtpToStamp ntpTs ∧ convertNtpToStamp ntpTs < 2 ^ 63) ∧
      (ntpTs ≤ ntpTs' → convertNtpToStamp ntpTs ≤ convertNtpToStamp ntpTs') := by
  have hlt := ntpTs.toNat_lt
  have heq := convertNtpToStamp_eq h
  refine ⟨heq, ?_, fun hle => ?_⟩
  · rw [heq, stampMillis]
    omega
  · rw [heq, convertNtpToStamp_eq h']
    exact stampMillis_mono (UInt64.le_iff_toNat_le.mp hle)

/-- The last timestamp of 1969 and the first of 1970. -/
theorem convertNtpToStamp_exact_epoch :
    convertNtpToStamp 0x83AA7E7FFFFFFFFF = -1 ∧ convertNtpToStamp 0x83AA7E8000000000 = 0 ∧
      convertNtpToStamp 0x83AA7E7FFFFFFFFF ≤ convertNtpToStamp 0x83AA7E8000000000 := by
  have hexact := @convertNtpToStamp_exact 0x83AA7E7FFFFFFFFF 0x83AA7E8000000000 (by decide)
    (by decide)
  exact ⟨by decide, by decide, hexact.2.2 (by decide)⟩

/-! ### From the time of day to a timestamp and on to milliseconds -/

/-- A time of day that a timestamp can hold: a valid `timeval` from 1970 to 2036. -/
structure Timeval.InEra (unixTs : Timeval) : Prop where
  sec_nonneg : 0 ≤ unixTs.tvSec
  sec_fits : unixTs.tvSec + 2208988800 < 2 ^ 32
  usec_nonneg : 0 ≤ unixTs.tvUsec
  usec_le : unixTs.tvUsec ≤ 999999

/-- The product that `ConvertUnixToNtp` converts to the 32-bit fraction. -/
def fractionValue (unixTs : Timeval) : ℚ :=
  ((unixTs.tvUsec : ℚ) + 1) * 2 ^ 32 / 1000000

/-- The stamp made of a time of day is within a millisecond of it, and the fraction is one. -/
structure Timeval.SurvivesNtp (unixTs : Timeval) : Prop where
  close : |(convertNtpToStamp (convertUnixToNtp unixTs).pack : ℚ)
    - ((unixTs.tvSec : ℚ) * 1000 + (unixTs.tvUsec : ℚ) / 1000)| ≤ 1
  fraction_lt : fractionValue unixTs < 2 ^ 32

/-- The fraction is the truncated product, modulo `2 ^ 32`. -/
theorem convertUnixToNtp_fraction (unixTs : Timeval) :
    (convertUnixToNtp unixTs).fraction = UInt32.ofInt ⌊fractionValue unixTs⌋ := by
  have hfloor : ⌊fractionValue unixTs⌋ = (unixTs.tvUsec + 1) * 2 ^ 32 / 1000000 := by
    have hcast : fractionValue unixTs
        = (((unixTs.tvUsec + 1) * 2 ^ 32 : ℤ) : ℚ) / ((1000000 : ℕ) : ℚ) := by
      unfold fractionValue
      push_cast
      rfl
    rw [hcast, Rat.floor_intCast_div_natCast]
    rfl
  rw [hfloor]
  rfl

theorem NtpTimestamp.pack_toNat (ntp : NtpTimestamp) :
    ntp.pack.toNat = ntp.second.toNat * 2 ^ 32 + ntp.fraction.toNat := by
  have hsecond := ntp.second.toNat_lt
  have hfraction := ntp.fraction.toNat_lt
  rw [NtpTimestamp.pack, UInt64.toNat_or, UInt64.toNat_shiftLeft, UInt32.toNat_toUInt64,
    UInt32.toNat_toUInt64]
  show ntp.second.toNat <<< 32 % 2 ^ 64 ||| ntp.fraction.toNat = _
  rw [Nat.shiftLeft_eq, Nat.mod_eq_of_lt (by omega), ← Nat.shiftLeft_eq,
    Nat.shiftLeft_add_eq_or_of_lt hfraction]

/-- The stamp of a packed timestamp is that of its two words. -/
theorem convertNtpToStamp_pack {ntp : NtpTimestamp} (h : ntp.second ≠ 0) :
    convertNtpToStamp ntp.pack = stampMillis ntp.second.toNat ntp.fraction.toNat := by
  have hpack := ntp.pack_toNat
  have hfraction := ntp.fraction.toNat_lt
  have hpos : ntp.second.toNat ≠ 0 := fun hzero => h (UInt32.toNat_inj.mp hzero)
  have hne : ntp.pack ≠ 0 := by
    intro hzero
    rw [hzero, UInt64.toNat_zero] at hpack
    omega
  have hhigh : ntp.pack.toNat / 2 ^ 32 = ntp.second.toNat := by omega
  have hlow : ntp.pack.toNat % 2 ^ 32 = ntp.fraction.toNat := by omega
  rw [convertNtpToStamp_eq hne, hhigh, hlow]

private theorem toNat_ofInt_of_fits {v : ℤ} (hlow : 0 ≤ v) (hhigh : v < 2 ^ 32) :
    ((UInt32.ofInt v).toNat : ℤ) = v := by
  have hmod : v % 2 ^ 32 = v := Int.emod_eq_of_lt hlow hhigh
  rw [UInt32.ofInt, hmod, UInt32.toNat_ofNat', Nat.mod_eq_of_lt (by omega)]
  exact Int.toNat_of_nonneg hlow

/-- The stamp made of a time of day, from its second and the fraction it was given. -/
private theorem stamp_of_inEra {unixTs : Timeval} (h : unixTs.InEra) :
    convertNtpToStamp (convertUnixToNtp unixTs).pack
      = unixTs.tvSec * 1000
        + ((convertUnixToNtp unixTs).fraction.toNat : ℤ) * 1000 / 2 ^ 32 := by
  have hsec := h.sec_nonneg
  have hfits := h.sec_fits
  have hsecond : ((convertUnixToNtp unixTs).second.toNat : ℤ) = unixTs.tvSec + 2208988800 :=
    toNat_ofInt_of_fits (by omega) hfits
  have hne : (convertUnixToNtp unixTs).second ≠ 0 := by
    intro hzero
    rw [hzero, UInt32.toNat_zero] at hsecond
    omega
  rw [convertNtpToStamp_pack hne, stampMillis, hsecond]
  ring

/-- Scaled to 32 bits and back, a microsecond count is less than a millisecond low and at most a
    microsecond high. -/
private theorem scaled_close (usec : ℤ) :
    usec - 1000 < 1000 * ((usec + 1) * 2 ^ 32 / 1000000 * 1000 / 2 ^ 32) ∧
      1000 * ((usec + 1) * 2 ^ 32 / 1000000 * 1000 / 2 ^ 32) ≤ usec + 1 := by
  omega

/-- Outside the last microsecond of a second the stamp is within a millisecond of the time of day.
    -/
theorem stamp_close {unixTs : Timeval} (h : unixTs.InEra) (hlast : unixTs.tvUsec < 999999) :
    |1000 * convertNtpToStamp (convertUnixToNtp unixTs).pack
      - (1000000 * unixTs.tvSec + unixTs.tvUsec)| ≤ 1000 := by
  have hlow := h.usec_nonneg
  have hfits : (unixTs.tvUsec + 1) * 2 ^ 32 / 1000000 < 2 ^ 32 := by omega
  have hfraction : ((convertUnixToNtp unixTs).fraction.toNat : ℤ)
      = (unixTs.tvUsec + 1) * 2 ^ 32 / 1000000 :=
    toNat_ofInt_of_fits (by omega) hfits
  have hclose := scaled_close unixTs.tvUsec
  rw [stamp_of_inEra h, hfraction, abs_le]
  omega

/-- **The local time in the protocol.** For every time of day from 1970 to 2036: the stamp made of
    it is within a millisecond of it and its fraction fits exactly when it is not in the last
    microsecond of its second. -/
theorem survivesNtp_iff {unixTs : Timeval} (h : unixTs.InEra) :
    unixTs.SurvivesNtp ↔ unixTs.tvUsec < 999999 := by
  have hlow := h.usec_nonneg
  constructor
  · -- in the last microsecond the fraction is a whole second
    rintro ⟨_, hfraction⟩
    by_contra hlast
    have hle : (999999 : ℚ) ≤ unixTs.tvUsec := by
      exact_mod_cast not_lt.mp hlast
    unfold fractionValue at hfraction
    linarith
  · intro hhigh
    have hfits : (unixTs.tvUsec + 1) * 2 ^ 32 / 1000000 < 2 ^ 32 := by omega
    have hfraction : ((convertUnixToNtp unixTs).fraction.toNat : ℤ)
        = (unixTs.tvUsec + 1) * 2 ^ 32 / 1000000 :=
      toNat_ofInt_of_fits (by omega) hfits
    have hstamp := stamp_of_inEra h
    rw [hfraction] at hstamp
    obtain ⟨hclose, hclose'⟩ := scaled_close unixTs.tvUsec
    constructor
    · rw [hstamp]
      generalize (unixTs.tvUsec + 1) * 2 ^ 32 / 1000000 * 1000 / 2 ^ 32 = millis at *
      have hge : (unixTs.tvUsec : ℚ) - 1000 < 1000 * millis := by exact_mod_cast hclose
      have hle : (1000 : ℚ) * millis ≤ unixTs.tvUsec + 1 := by exact_mod_cast hclose'
      push_cast
      rw [abs_le]
      constructor <;> linarith
    · have hlt : (unixTs.tvUsec : ℚ) < 999999 := by exact_mod_cast hhigh
      unfold fractionValue
      linarith

/-- Half a second past the epoch. -/
theorem survivesNtp_iff_half : (⟨0, 500000⟩ : Timeval).SurvivesNtp :=
  (survivesNtp_iff ⟨by decide, by decide, by decide, by decide⟩).mpr (by decide)

/-- The last microsecond of the first second after the epoch becomes the epoch itself. -/
theorem last_microsecond_lost :
    ¬ ∀ unixTs : Timeval, unixTs.InEra →
      |(convertNtpToStamp (convertUnixToNtp unixTs).pack : ℚ)
          - ((unixTs.tvSec : ℚ) * 1000 + (unixTs.tvUsec : ℚ) / 1000)| ≤ 1 ∧
        fractionValue unixTs < 2 ^ 32 := by
  intro hclaim
  have hclose := (hclaim ⟨0, 999999⟩ ⟨by decide, by decide, by decide, by decide⟩).1
  have hstamp : convertNtpToStamp (convertUnixToNtp ⟨0, 999999⟩).pack = 0 := by decide
  rw [hstamp] at hclose
  norm_num [abs_le] at hclose

end TimeService
