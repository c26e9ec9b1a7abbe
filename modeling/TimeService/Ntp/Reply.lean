import TimeService.Ntp.UpdateTime
import Mathlib.Algebra.Order.Group.Unbundled.Abs

namespace TimeService

/-!
# Replies of the time server

What `ReceivedMessage` computes from the four stamps of an exchange, and which replies get there.

* `ntp_error_bound`: whatever the delays on the way and the offset of the clocks, the computed time
  is off by at most half the round trip, rounded up;
* `reply_without_time_accepted`: a reply that carries no time of the server counts as one that does;
  with zeros for the server's timestamps the result is close to 1970
  (`NtpExchange.AnsweredWithoutTime.near_1970`).
-/

/-- `ReceivedMessage` behind its reading of the four stamps. -/
def SNTPClient.ofStamps (originClient receiveServer transmitServer receiveClient
    steadyMillis : ℤ) : SNTPClient :=
  let clockOffset := ((receiveServer - originClient) + (transmitServer - receiveClient)).tdiv 2
  let roundTripDelay := (receiveClient - originClient) - (transmitServer - receiveServer)
  ⟨receiveClient + clockOffset, steadyMillis, roundTripDelay⟩

/-- The stamp of the request: the server's copy of it, or the client's own where that is zero. -/
def originStamp (originateTimestamp : UInt64) (buffer : NtpBuffer) : ℤ :=
  convertNtpToStamp
    (if getNtpTimestamp64 24 buffer > 0 then getNtpTimestamp64 24 buffer else originateTimestamp)

theorem receivedMessage_eq_ofStamps (originateTimestamp : UInt64) (buffer : NtpBuffer)
    (timeOfDay : Timeval) (steadyMillis : ℤ) :
    receivedMessage originateTimestamp buffer timeOfDay steadyMillis
      = .ofStamps (originStamp originateTimestamp buffer)
          (convertNtpToStamp (getNtpTimestamp64 32 buffer))
          (convertNtpToStamp (getNtpTimestamp64 40 buffer))
          (convertNtpToStamp (convertUnixToNtp timeOfDay).pack) steadyMillis :=
  rfl

/-! ### The error of the computed time -/

/-- A truncated half is within half a unit of the half. -/
private theorem tdiv_two_bounds (x : ℤ) : x - 1 ≤ 2 * x.tdiv 2 ∧ 2 * x.tdiv 2 ≤ x + 1 := by
  rcases le_total 0 x with hx | hx
  · rw [Int.tdiv_eq_ediv_of_nonneg hx]
    omega
  · have hneg : x.tdiv 2 = -((-x) / 2) := by
      rw [← Int.tdiv_eq_ediv_of_nonneg (by omega), Int.neg_tdiv, neg_neg]
    rw [hneg]
    omega

/-- **The error of the network time.** For every true offset `theta` of the server's clock, every
    delay `d1` of the request, `p` in the server and `d2` of the reply: the round trip is what both
    ways have taken, and the computed time is within the certainty of the time of the server at the
    reception, and one millisecond. -/
theorem ntp_error_bound {t1 t2 t3 t4 theta d1 p d2 : ℤ} (steadyMillis : ℤ) (h1 : 0 ≤ d1)
    (h2 : 0 ≤ d2) (ht2 : t2 = t1 + theta + d1) (ht3 : t3 = t2 + p) (ht4 : t4 = t3 - theta + d2) :
    (SNTPClient.ofStamps t1 t2 t3 t4 steadyMillis).mRoundTripTime = d1 + d2 ∧
      |(SNTPClient.ofStamps t1 t2 t3 t4 steadyMillis).mNtpTime - (t4 + theta)|
        ≤ (TimeResult.ofClient (.ofStamps t1 t2 t3 t4 steadyMillis)).mCertaintyMillis + 1 := by
  have hround : (SNTPClient.ofStamps t1 t2 t3 t4 steadyMillis).mRoundTripTime = d1 + d2 := by
    show (t4 - t1) - (t3 - t2) = d1 + d2
    omega
  refine ⟨hround, ?_⟩
  -- the offset is off by half the difference of the delays
  have hsum : (t2 - t1) + (t3 - t4) = 2 * theta + (d1 - d2) := by omega
  have htime : (SNTPClient.ofStamps t1 t2 t3 t4 steadyMillis).mNtpTime
      = t4 + (2 * theta + (d1 - d2)).tdiv 2 := by
    show t4 + ((t2 - t1) + (t3 - t4)).tdiv 2 = t4 + (2 * theta + (d1 - d2)).tdiv 2
    rw [hsum]
  have hcertainty : (TimeResult.ofClient (.ofStamps t1 t2 t3 t4 steadyMillis)).mCertaintyMillis
      = (d1 + d2).tdiv 2 := by
    show (SNTPClient.ofStamps t1 t2 t3 t4 steadyMillis).mRoundTripTime.tdiv 2 = (d1 + d2).tdiv 2
    rw [hround]
  obtain ⟨hoffset, hoffset'⟩ := tdiv_two_bounds (2 * theta + (d1 - d2))
  obtain ⟨hhalf, _⟩ := tdiv_two_bounds (d1 + d2)
  rw [htime, hcertainty, abs_le]
  constructor
  · omega
  · omega

/-- A server half a second behind, and a reply slower than the request. -/
theorem ntp_error_bound_behind :
    |(SNTPClient.ofStamps 1000 507 509 1039 0).mNtpTime - (1039 + -500)|
      ≤ (TimeResult.ofClient (.ofStamps 1000 507 509 1039 0)).mCertaintyMillis + 1 :=
  (@ntp_error_bound 1000 507 509 1039 (-500) 7 2 30 0 (by decide) (by decide) (by decide)
    (by decide) (by decide)).2

/-! ### Replies without a time -/

/-- `recv` has returned this datagram, and it carries no time of the server: it is no whole packet,
    or one of the server's timestamps is zero. -/
structure NtpExchange.AnsweredWithoutTime (x : NtpExchange) (datagram : List UInt8) : Prop where
  getaddrinfo : x.getaddrinfo = 0
  socket : x.socket ≠ 0
  connect : 0 ≤ x.connect
  send : x.send ≠ -1
  received : x.datagram = some datagram
  without : datagram.length < ntpPackageSize ∨
    getNtpTimestamp64 32 (receiveBuffer datagram) = 0 ∨
    getNtpTimestamp64 40 (receiveBuffer datagram) = 0

/-- The exchange counts as failed: the trusted time stays, and with it the clock. -/
structure NtpExchange.Refused (x : NtpExchange) : Prop where
  answer : requestTime x = none
  trusted : ∀ second mTimeResult, requestTime second = none →
    forceRefresh x second mTimeResult = (false, mTimeResult)
  clock : ∀ second mTimeResult steadyMillis curTimezoneId, requestTime second = none →
    refreshSystemTime mTimeResult ⟨x, second, steadyMillis⟩ curTimezoneId = (mTimeResult, none)

/-- Whatever the datagram is, it is read as a reply. -/
theorem NtpExchange.AnsweredWithoutTime.requestTime_eq {x : NtpExchange} {datagram : List UInt8}
    (h : x.AnsweredWithoutTime datagram) :
    requestTime x = some (receivedMessage (convertUnixToNtp x.sendTime).pack
      (receiveBuffer datagram) x.receiveTime x.steadyMillis) := by
  unfold requestTime
  rw [if_neg (not_not.mpr h.getaddrinfo), if_neg h.socket, if_neg (not_lt.mpr h.connect)]
  simp only
  rw [if_neg h.send, h.received, Option.map_some]

/-- With both timestamps of the server zero, the computed time is half the round trip after 1970, to
    a millisecond: the request and the reception are taken for equally far from that time. -/
theorem NtpExchange.AnsweredWithoutTime.near_1970 {x : NtpExchange} {datagram : List UInt8}
    (h : x.AnsweredWithoutTime datagram)
    (hreceive : getNtpTimestamp64 32 (receiveBuffer datagram) = 0)
    (htransmit : getNtpTimestamp64 40 (receiveBuffer datagram) = 0) :
    ∃ client, requestTime x = some client ∧ |2 * client.mNtpTime - client.mRoundTripTime| ≤ 1 := by
  refine ⟨_, h.requestTime_eq, ?_⟩
  have hzero : convertNtpToStamp 0 = 0 := by decide
  rw [receivedMessage_eq_ofStamps, hreceive, htransmit, hzero]
  -- nothing else of the reply is left in the computed time
  generalize originStamp _ _ = originClient
  generalize convertNtpToStamp _ = receiveClient
  have htime : (SNTPClient.ofStamps originClient 0 0 receiveClient x.steadyMillis).mNtpTime
      = receiveClient + ((0 - originClient) + (0 - receiveClient)).tdiv 2 := rfl
  have hround : (SNTPClient.ofStamps originClient 0 0 receiveClient x.steadyMillis).mRoundTripTime
      = (receiveClient - originClient) - (0 - 0) := rfl
  obtain ⟨hlow, hhigh⟩ := tdiv_two_bounds ((0 - originClient) + (0 - receiveClient))
  rw [htime, hround, abs_le]
  constructor
  · omega
  · omega

/-- **A reply without a time counts.** Whatever the clocks and the trusted time are: no datagram
    without a time of the server is refused; `RequestTime` answers true, and what it has computed
    replaces the trusted time. -/
theorem reply_without_time_accepted {x : NtpExchange} {datagram : List UInt8}
    (h : x.AnsweredWithoutTime datagram) :
    ¬ x.Refused ∧ ∃ client, requestTime x = some client ∧
      ∀ second mTimeResult,
        forceRefresh x second mTimeResult = (true, some (.ofClient client)) := by
  have heq := h.requestTime_eq
  constructor
  · -- a refused exchange has no answer
    intro hrefused
    rw [hrefused.answer] at heq
    cases heq
  · refine ⟨_, heq, fun second mTimeResult => ?_⟩
    unfold forceRefresh
    rw [heq]

/-- An empty datagram a tenth of a second after the request, on a device in May 2023. -/
def emptyReply : NtpExchange where
  getaddrinfo := 0
  socket := 3
  connect := 0
  sendTime := ⟨1683325312, 0⟩
  send := ntpPackageSize
  datagram := some []
  receiveTime := ⟨1683325312, 100000⟩
  steadyMillis := 5000

theorem emptyReply_answeredWithoutTime : emptyReply.AnsweredWithoutTime [] :=
  ⟨rfl, by decide, by decide, by decide, rfl, .inl (by decide)⟩

theorem reply_without_time_accepted_empty : ¬ emptyReply.Refused :=
  (reply_without_time_accepted emptyReply_answeredWithoutTime).1

/-- The empty datagram sets the clock to the eighth hour of 1970. -/
theorem clock_set_to_1970 :
    ¬ ∀ (x : NtpExchange) (datagram : List UInt8), x.AnsweredWithoutTime datagram → x.Refused := by
  intro hclaim
  have hset : refreshSystemTime none ⟨emptyReply, { emptyReply with send := -1 }, 5000⟩
      "Asia/Shanghai" = (some ⟨50, 5000, 50⟩, some 28800050) := by decide +kernel
  have hkept := (hclaim emptyReply [] emptyReply_answeredWithoutTime).clock
    { emptyReply with send := -1 } none 5000 "Asia/Shanghai" (by decide)
  rw [hset] at hkept
  cases hkept

end TimeService
