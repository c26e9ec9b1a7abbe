import TimeService.Lib.ClockSync
import TimeService.Lib.Transition
import TimeService.Ntp.Timestamp
import TimeService.Ntp.UpdateTime

namespace TimeService

open ClockSync Transition

/-!
# The trusted time

`ntp_trusted_time.cpp` over runs: the time service refreshes its trusted time from a server, from
time to time and not always with success, and reads it in between.  The clocks are part of the
state: true time, the steady clock, and how far the time of day is from true time.

* `trusted_time_error`: the trusted time is off by no more than the certainty that is stored with
  it, five milliseconds, what the server's timestamps are off by, and what the steady clock has gone
  wrong since the reply came back.

The server copies the originate field or leaves it empty.  Both readings of the time of day that an
answered request takes have a timestamp: they lie between 1970 and 2036, and not in the last
microsecond of a second, where the fraction does not fit its field and the error is half a second.
-/

/-- `NtpTrustedTime::GetCacheAge`; `INT_MAX` without a result. -/
def getCacheAge (mTimeResult : Option TimeResult) (steadyMillis : ℤ) : ℤ :=
  mTimeResult.elim (2 ^ 31 - 1) fun r => steadyMillis - r.mElapsedRealtimeMillis

/-- `duration_cast` of the steady clock, in microseconds since boot, to milliseconds. -/
def steadyMillis (steady : ℤ) : ℤ := steady / 1000

/-! ### Runs -/

/-- A call of `RequestTime`: what it meets, and when (in microseconds of true time) the request is
    written, arrives, the reply leaves and comes back, and the call ends; the steady clock then
    shows `steady`.  Of a call without a reply only the end counts. -/
structure Attempt where
  exchange : NtpExchange
  sent : ℤ
  arrived : ℤ
  left : ℤ
  returned : ℤ
  finished : ℤ
  steady : ℤ

/-- The clocks and the trusted time: `wallOffset` is how far the time of day is ahead of true time,
    `uncertainty` what has gone by since the reply was stamped without the steady clock counting it,
    or the other way round. -/
structure TrustedTime where
  now : ℤ
  steady : ℤ
  wallOffset : ℤ
  mTimeResult : Option TimeResult
  uncertainty : ℤ

/-- Time passes. -/
def TrustedTime.pass (s : TrustedTime) (now steady : ℤ) : TrustedTime :=
  { s with
    now
    steady
    uncertainty := s.uncertainty + |(now - s.now) - (steady - s.steady)| }

/-- `RequestTime` in `ForceRefresh`, and the result that is stored after it. -/
def TrustedTime.attempt (s : TrustedTime) (x : Attempt) : TrustedTime :=
  match requestTime x.exchange with
  | some client =>
    { s with
      now := x.finished
      steady := x.steady
      mTimeResult := some (.ofClient client)
      uncertainty := x.finished - x.returned }
  | none => s.pass x.finished x.steady

/-- `NtpTrustedTime::ForceRefresh`. -/
def TrustedTime.forceRefresh (s : TrustedTime) (first second : Attempt) : TrustedTime :=
  if (requestTime first.exchange).isSome then s.attempt first
  else (s.attempt first).attempt second

/-- What happens: time passes, the time of day is set, the trusted time is refreshed. -/
inductive TrustedAction
  | pass (now steady : ℤ)
  | setTime (wallOffset : ℤ)
  | forceRefresh (first second : Attempt)

def TrustedTime.step (s : TrustedTime) : TrustedAction → Option TrustedTime
  | .pass now steady => some (s.pass now steady)
  | .setTime wallOffset => some { s with wallOffset }
  | .forceRefresh first second => some (s.forceRefresh first second)

/-- A service that has not asked for the time yet. -/
def TrustedTime.start (now steady wallOffset : ℤ) : TrustedTime :=
  ⟨now, steady, wallOffset, none, 0⟩

/-- The calls are those of `ForceRefresh`, and its result is stored. -/
theorem TrustedTime.forceRefresh_mTimeResult (s : TrustedTime) (first second : Attempt) :
    (s.forceRefresh first second).mTimeResult
      = (TimeService.forceRefresh first.exchange second.exchange s.mTimeResult).2 := by
  unfold TrustedTime.forceRefresh TrustedTime.attempt TimeService.forceRefresh
  cases requestTime first.exchange with
  | some client => rfl
  | none =>
    cases requestTime second.exchange with
    | some client => rfl
    | none => rfl

/-! ### What the clocks and the server do -/

/-- The time of day is this one, in microseconds since 1970, and has a timestamp. -/
structure Timeval.Shows (unixTs : Timeval) (micros : ℤ) : Prop where
  inEra : unixTs.InEra
  last : unixTs.tvUsec < 999999
  micros : 1000000 * unixTs.tvSec + unixTs.tvUsec = micros

/-- The timestamp is within `precision` of a time, both in microseconds since 1970: a unit of the
    timestamp is `10 ^ 6 / 2 ^ 32` of them. -/
structure IsTimestampOf (precision time : ℤ) (ntpTs : UInt64) : Prop where
  nonneg : 0 ≤ time
  close : |ntpTs.toNat * 1000000 - (time + 2208988800000000) * 2 ^ 32| ≤ precision * 2 ^ 32

/-- A reply, of the exchange of an attempt, from a server that keeps time. -/
structure Attempt.Answered (precision : ℤ) (x : Attempt) (wallOffset : ℤ) (buffer : NtpBuffer) :
    Prop where
  forth : x.sent ≤ x.arrived
  back : x.left ≤ x.returned
  finished : x.returned ≤ x.finished
  sendTime : x.exchange.sendTime.Shows (x.sent + wallOffset)
  receiveTime : x.exchange.receiveTime.Shows (x.returned + wallOffset)
  clock : x.exchange.steadyMillis = steadyMillis x.steady
  originate : getNtpTimestamp64 24 buffer = 0 ∨
    getNtpTimestamp64 24 buffer = (convertUnixToNtp x.exchange.sendTime).pack
  receive : IsTimestampOf precision x.arrived (getNtpTimestamp64 32 buffer)
  transmit : IsTimestampOf precision x.left (getNtpTimestamp64 40 buffer)

/-- The steady clock does not go back in an attempt, and a reply is one of a server that keeps
    time. -/
structure TrustedTime.Tries (precision : ℤ) (s : TrustedTime) (x : Attempt) : Prop where
  steady : s.steady ≤ x.steady
  answered : ∀ datagram ∈ x.exchange.datagram,
    x.Answered precision s.wallOffset (receiveBuffer datagram)

/-- The steady clock does not go back, and servers keep time. -/
def Synchronised (precision : ℤ) (s : TrustedTime) : TrustedAction → Prop
  | .pass _ steady => s.steady ≤ steady
  | .setTime _ => True
  | .forceRefresh first second =>
    s.Tries precision first ∧ (s.attempt first).Tries precision second

/-! ### Stamps -/

variable {precision : ℤ}

theorem IsTimestampOf.stamp_close {time : ℤ} {ntpTs : UInt64}
    (h : IsTimestampOf precision time ntpTs) :
    |1000 * convertNtpToStamp ntpTs - time| ≤ 1000 + precision := by
  have hclose := h.close
  have hnonneg := h.nonneg
  rw [abs_le] at hclose ⊢
  by_cases hzero : ntpTs = 0
  · -- the empty timestamp counts as 1970, and so it is of no time much later
    have hstamp : convertNtpToStamp 0 = 0 := by decide
    rw [hzero, UInt64.toNat_zero] at hclose
    rw [hzero, hstamp]
    omega
  · rw [convertNtpToStamp_eq hzero, stampMillis]
    push_cast
    omega

theorem Timeval.Shows.stamp_close {unixTs : Timeval} {micros : ℤ} (h : unixTs.Shows micros) :
    |1000 * convertNtpToStamp (convertUnixToNtp unixTs).pack - micros| ≤ 1000 := by
  rw [← h.micros]
  exact TimeService.stamp_close h.inEra h.last

/-- The stamps of an exchange, in microseconds. -/
def Attempt.stamps (x : Attempt) (buffer : NtpBuffer) : Stamps ℤ where
  origin := 1000 * convertNtpToStamp
    (if getNtpTimestamp64 24 buffer > 0 then getNtpTimestamp64 24 buffer
      else (convertUnixToNtp x.exchange.sendTime).pack)
  receive := 1000 * convertNtpToStamp (getNtpTimestamp64 32 buffer)
  transmit := 1000 * convertNtpToStamp (getNtpTimestamp64 40 buffer)
  final := 1000 * convertNtpToStamp (convertUnixToNtp x.exchange.receiveTime).pack

/-- A truncated half is within half a unit of the half. -/
private theorem tdiv_two_near (x : ℤ) : x - 1 ≤ 2 * x.tdiv 2 ∧ 2 * x.tdiv 2 ≤ x + 1 := by
  have hmod := Int.tmod_add_mul_tdiv x 2
  have hlt := Int.tmod_lt_of_pos x (show (0 : ℤ) < 2 by decide)
  have hneg := Int.lt_tmod_of_pos x (show (0 : ℤ) < 2 by decide)
  omega

/-- What `ReceivedMessage` makes of the stamps. -/
theorem Attempt.stamps_of_received {x : Attempt} {buffer : NtpBuffer} {client : SNTPClient}
    (h : client = receivedMessage (convertUnixToNtp x.exchange.sendTime).pack buffer
      x.exchange.receiveTime x.exchange.steadyMillis) :
    |2 * (1000 * client.mNtpTime) - (x.stamps buffer).twiceTime| ≤ 1000 ∧
      (x.stamps buffer).roundTrip
        ≤ 2 * (1000 * (TimeResult.ofClient client).mCertaintyMillis) + 1000 := by
  let origin := convertNtpToStamp
    (if getNtpTimestamp64 24 buffer > 0 then getNtpTimestamp64 24 buffer
      else (convertUnixToNtp x.exchange.sendTime).pack)
  let receive := convertNtpToStamp (getNtpTimestamp64 32 buffer)
  let transmit := convertNtpToStamp (getNtpTimestamp64 40 buffer)
  let final := convertNtpToStamp (convertUnixToNtp x.exchange.receiveTime).pack
  have htime : client.mNtpTime = final + ((receive - origin) + (transmit - final)).tdiv 2 := by
    rw [h]
    rfl
  have hcertainty : (TimeResult.ofClient client).mCertaintyMillis
      = ((final - origin) - (transmit - receive)).tdiv 2 := by
    rw [h]
    rfl
  have htwice : (x.stamps buffer).twiceTime
      = 2 * (1000 * final)
        + ((1000 * receive - 1000 * origin) + (1000 * transmit - 1000 * final)) :=
    rfl
  have hround : (x.stamps buffer).roundTrip
      = (1000 * final - 1000 * origin) - (1000 * transmit - 1000 * receive) := rfl
  have hoffset := tdiv_two_near ((receive - origin) + (transmit - final))
  have hhalf := tdiv_two_near ((final - origin) - (transmit - receive))
  rw [htime, hcertainty, htwice, hround, abs_le]
  refine ⟨⟨?_, ?_⟩, ?_⟩
  · omega
  · omega
  · omega

/-- **The error of a reply.** The time that is stored is the time at which the reply came back, up
    to the certainty that is stored with it, four milliseconds and the server's precision. -/
theorem Attempt.Answered.error {x : Attempt} {wallOffset : ℤ} {buffer : NtpBuffer}
    (h : x.Answered precision wallOffset buffer) {client : SNTPClient}
    (hclient : client = receivedMessage (convertUnixToNtp x.exchange.sendTime).pack buffer
      x.exchange.receiveTime x.exchange.steadyMillis) :
    |1000 * client.mNtpTime - x.returned|
      ≤ 1000 * (TimeResult.ofClient client).mCertaintyMillis + 4000 + precision := by
  -- the copy of the originate field is what the client would have taken without it
  have horiginate : (if getNtpTimestamp64 24 buffer > 0 then getNtpTimestamp64 24 buffer
      else (convertUnixToNtp x.exchange.sendTime).pack)
        = (convertUnixToNtp x.exchange.sendTime).pack := by
    split
    · rename_i hcopied
      rcases h.originate with hzero | hcopy
      · rw [hzero] at hcopied
        exact absurd hcopied (by decide)
      · exact hcopy
    · rfl
  have horigin : |(x.stamps buffer).origin - (x.sent + wallOffset)| ≤ 1000 := by
    show |1000 * convertNtpToStamp _ - _| ≤ 1000
    rw [horiginate]
    exact h.sendTime.stamp_close
  have herror := Stamps.twiceTime_error h.forth h.back horigin h.receiveTime.stamp_close
    h.receive.stamp_close h.transmit.stamp_close
  obtain ⟨htime, hround⟩ := Attempt.stamps_of_received hclient
  rw [abs_le] at herror htime ⊢
  omega

/-! ### The error over runs -/

/-- The result is a reading of the steady clock that is off by its certainty, four milliseconds, the
    server's precision and the uncertainty. -/
def TrustedTime.Accurate (precision : ℤ) (s : TrustedTime) : Prop :=
  ∀ r ∈ s.mTimeResult, ∃ reference, r.mElapsedRealtimeMillis = steadyMillis reference ∧
    reference ≤ s.steady ∧
    Reading.Within ⟨1000 * r.mTimeMillis, reference⟩
      (1000 * r.mCertaintyMillis + 4000 + precision + s.uncertainty) s.steady s.now

theorem TrustedTime.Accurate.pass {s : TrustedTime} (h : s.Accurate precision) {now steady : ℤ}
    (hsteady : s.steady ≤ steady) : (s.pass now steady).Accurate precision := by
  intro r hr
  obtain ⟨reference, helapsed, hle, hwithin⟩ := h r hr
  refine ⟨reference, helapsed, le_trans hle hsteady, ?_⟩
  show Reading.Within _ (_ + (s.uncertainty + |(now - s.now) - (steady - s.steady)|)) steady now
  rw [← add_assoc]
  exact hwithin.advance

/-- A result that is stored comes from a reply. -/
theorem requestTime_eq_some {x : NtpExchange} {client : SNTPClient}
    (h : requestTime x = some client) :
    ∃ datagram ∈ x.datagram, client = receivedMessage (convertUnixToNtp x.sendTime).pack
      (receiveBuffer datagram) x.receiveTime x.steadyMillis := by
  unfold requestTime at h
  split_ifs at h
  obtain ⟨datagram, hdatagram, rfl⟩ := Option.map_eq_some_iff.mp h
  exact ⟨datagram, hdatagram, rfl⟩

/-- **Accurate, one call of `RequestTime`.** -/
theorem TrustedTime.Accurate.attempt {s : TrustedTime} (h : s.Accurate precision) {x : Attempt}
    (htries : s.Tries precision x) : (s.attempt x).Accurate precision := by
  unfold TrustedTime.attempt
  cases hrequest : requestTime x.exchange with
  | none => exact h.pass htries.steady
  | some client =>
    obtain ⟨datagram, hdatagram, hclient⟩ := requestTime_eq_some hrequest
    have hanswered := htries.answered datagram hdatagram
    have hclock : client.mNtpTimeReference = steadyMillis x.steady := by
      rw [hclient]
      exact hanswered.clock
    intro r hr
    cases hr
    refine ⟨x.steady, hclock, le_refl _, ?_⟩
    -- the reply came back before the call ended
    have herror := hanswered.error hclient
    have hfinished := hanswered.finished
    show |1000 * client.mNtpTime + (x.steady - x.steady) - x.finished|
      ≤ 1000 * (TimeResult.ofClient client).mCertaintyMillis + 4000 + precision
        + (x.finished - x.returned)
    rw [abs_le] at herror ⊢
    omega

/-- **Accurate, one step.** -/
theorem TrustedTime.Accurate.step {s s' : TrustedTime} {a : TrustedAction}
    (h : s.Accurate precision) (hok : Synchronised precision s a) (hstep : s.step a = some s') :
    s'.Accurate precision := by
  cases a with
  | pass now steady =>
    cases hstep
    exact h.pass hok
  | setTime wallOffset =>
    cases hstep
    exact h
  | forceRefresh first second =>
    cases hstep
    unfold TrustedTime.forceRefresh
    split
    · exact h.attempt hok.1
    · exact (h.attempt hok.1).attempt hok.2

/-- **The trusted time.**  In every run with servers whose timestamps are within `precision` and a
    steady clock that does not go back, whatever the delays of requests and replies, however the
    time of day is set between the refreshes as long as what an answered request reads of it has a
    timestamp, and whichever refreshes fail: once there is a result, the trusted time is off by no
    more than its certainty, five milliseconds, the precision and the uncertainty, and its age is
    not negative. -/
theorem trusted_time_error {precision now steady wallOffset : ℤ} {s : TrustedTime}
    (hrun : Reaches TrustedTime.step (Synchronised precision) (.start now steady wallOffset) s)
    {r : TimeResult} (hr : s.mTimeResult = some r) :
    |1000 * currentTimeMillis s.mTimeResult (steadyMillis s.steady) - s.now|
        ≤ 1000 * r.mCertaintyMillis + 5000 + precision + s.uncertainty ∧
      0 ≤ getCacheAge s.mTimeResult (steadyMillis s.steady) := by
  have haccurate : s.Accurate precision :=
    hrun.invariant (fun _ _ _ h hok hstep => h.step hok hstep) (fun _ hnone => by cases hnone)
  obtain ⟨reference, helapsed, hle, hwithin⟩ := haccurate r hr
  have hcurrent : currentTimeMillis s.mTimeResult (steadyMillis s.steady)
      = r.mTimeMillis + (s.steady / 1000 - reference / 1000) := by
    rw [hr]
    show r.mTimeMillis + (steadyMillis s.steady - r.mElapsedRealtimeMillis) = _
    rw [helapsed]
    rfl
  have hage : getCacheAge s.mTimeResult (steadyMillis s.steady)
      = s.steady / 1000 - reference / 1000 := by
    rw [hr]
    show steadyMillis s.steady - r.mElapsedRealtimeMillis = _
    rw [helapsed]
    rfl
  have hreading : |1000 * r.mTimeMillis + (s.steady - reference) - s.now|
      ≤ 1000 * r.mCertaintyMillis + 4000 + precision + s.uncertainty := hwithin
  rw [hcurrent, hage]
  rw [abs_le] at hreading ⊢
  omega

/-- A host name that is not resolved. -/
def unresolved : Attempt where
  exchange := { replyAt1683325312 with getaddrinfo := -2, datagram := none }
  sent := 0
  arrived := 0
  left := 0
  returned := 0
  finished := 1683325311600000
  steady := 4500000

/-- A request and a reply that take about 300 and 100 ms, stamped to the millisecond. -/
def slowRequest : Attempt where
  exchange := { replyAt1683325312 with receiveTime := ⟨0, 400000⟩ }
  sent := 1683325311700000
  arrived := 1683325312000130
  left := 1683325311999950
  returned := 1683325312100000
  finished := 1683325312100050
  steady := 5000000

/-- The second attempt of a refresh succeeds, on a device whose time of day has started at zero. -/
theorem trusted_time_error_slow :
    ∃ s : TrustedTime, s.mTimeResult = some ⟨1683325312200, 5000, 200⟩ ∧
      s.uncertainty = 50 ∧
      |1000 * currentTimeMillis s.mTimeResult (steadyMillis s.steady) - s.now|
        ≤ 1000 * 200 + 5000 + 500 + s.uncertainty := by
  let start := TrustedTime.start 1683325311000000 4000000 (-1683325311700000)
  have hanswered : slowRequest.Answered 500 start.wallOffset (receiveBuffer
      (List.replicate 32 0 ++ (0xE8 :: List.replicate 7 0) ++ (0xE8 :: List.replicate 7 0))) :=
    { forth := by decide
      back := by decide
      finished := by decide
      sendTime := ⟨⟨by decide, by decide, by decide, by decide⟩, by decide, by decide⟩
      receiveTime := ⟨⟨by decide, by decide, by decide, by decide⟩, by decide, by decide⟩
      clock := by decide
      originate := .inl (by decide +kernel)
      receive := ⟨by decide, by decide +kernel⟩
      transmit := ⟨by decide, by decide +kernel⟩ }
  have hok : Synchronised 500 start (.forceRefresh unresolved slowRequest) := by
    refine ⟨⟨by decide, fun _ hnone => by cases hnone⟩, ⟨by decide, fun datagram hsome => ?_⟩⟩
    cases hsome
    exact hanswered
  have hresult : (start.forceRefresh unresolved slowRequest).mTimeResult
      = some ⟨1683325312200, 5000, 200⟩ := by
    decide +kernel
  have hrun : Reaches TrustedTime.step (Synchronised 500) start
      (start.forceRefresh unresolved slowRequest) := Reaches.refl.tail hok rfl
  exact ⟨_, hresult, by decide +kernel, (trusted_time_error hrun hresult).1⟩

end TimeService
