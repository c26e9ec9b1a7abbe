import TimeService.Service.SystemTime

namespace TimeService

/-!
# The SNTP client

`sntp_client.h` and `sntp_client.cpp`: one exchange with a time server.  Timestamps are the
64-bit words of the protocol (32 bits of seconds since 1900, 32 bits of fraction); the stamps
computed from them are milliseconds since 1970.

What the network and the clocks answer during `RequestTime` is an argument (`NtpExchange`).  The
fields of a reply that no computation reads are left out.
-/

/-- `struct ntp_timestamp`. -/
structure NtpTimestamp where
  second : UInt32
  fraction : UInt32
deriving DecidableEq, Repr

/-- `SECONDS_SINCE_FIRST_EPOCH`. -/
def secondsSinceFirstEpoch : UInt64 := 2208988800

/-- `NTP_PACKAGE_SIZE`. -/
abbrev ntpPackageSize : ℕ := 48

/-- A message buffer. -/
abbrev NtpBuffer := Vector UInt8 ntpPackageSize

/-- The receive buffer after `recv`: it was zero, and a datagram has been copied to its front. -/
def receiveBuffer (datagram : List UInt8) : NtpBuffer :=
  Vector.ofFn fun i => datagram.getD i 0

/-- `memcpy_s` of bytes into an unsigned integer of a little-endian host. -/
def littleEndian : List UInt8 → UInt64
  | [] => 0
  | byte :: bytes => byte.toUInt64 + 256 * littleEndian bytes

/-- `SNTPClient::GetNtpTimestamp64`: the bytes are reversed and copied into the result. -/
def getNtpTimestamp64 (offset : ℕ) (buffer : NtpBuffer) : UInt64 :=
  littleEndian ((List.range 8).map fun loop => buffer.getD (offset + loop) 0).reverse

/-- `SNTPClient::ConvertUnixToNtp`, with the product of doubles read as the exact one. -/
def convertUnixToNtp (unixTs : Timeval) : NtpTimestamp where
  second := UInt32.ofInt (unixTs.tvSec + secondsSinceFirstEpoch.toNat)
  fraction := UInt32.ofInt ((unixTs.tvUsec + 1) * 2 ^ 32 / 1000000)

/-- The two words of a timestamp in one. -/
def NtpTimestamp.pack (ntp : NtpTimestamp) : UInt64 :=
  (ntp.second.toUInt64 <<< 32) ||| ntp.fraction.toUInt64

/-- `SNTPClient::ConvertNtpToStamp`.  The arithmetic is unsigned and wraps; the result is read as a
    signed number. -/
def convertNtpToStamp (ntpTs : UInt64) : ℤ :=
  let second := ((ntpTs >>> 32) &&& 0xFFFFFFFF).toUInt32
  let fraction := (ntpTs &&& 0xFFFFFFFF).toUInt32
  if second = 0 ∧ fraction = 0 then 0 else
  ((second.toUInt64 - secondsSinceFirstEpoch) * 1000
    + fraction.toUInt64 * 1000 / 0x100000000).toInt64.toInt

/-- What `SNTPClient` has after a reply: `mNtpTime`, `mNtpTimeReference` and `mRoundTripTime`. -/
structure SNTPClient where
  mNtpTime : ℤ
  mNtpTimeReference : ℤ
  mRoundTripTime : ℤ
deriving DecidableEq, Repr

/-- `SNTPClient::ReceivedMessage`, with the time of day and the steady clock that it reads. -/
def receivedMessage (originateTimestamp : UInt64) (buffer : NtpBuffer) (timeOfDay : Timeval)
    (steadyMillis : ℤ) : SNTPClient :=
  let ntpTs := (convertUnixToNtp timeOfDay).pack
  let messageOriginate := getNtpTimestamp64 24 buffer
  let tempOriginate := if messageOriginate > 0 then messageOriginate else originateTimestamp
  let originClient := convertNtpToStamp tempOriginate
  let receiveServer := convertNtpToStamp (getNtpTimestamp64 32 buffer)
  let transmitServer := convertNtpToStamp (getNtpTimestamp64 40 buffer)
  let receiveClient := convertNtpToStamp ntpTs
  let clockOffset := ((receiveServer - originClient) + (transmitServer - receiveClient)).tdiv 2
  let roundTripDelay := (receiveClient - originClient) - (transmitServer - receiveServer)
  ⟨convertNtpToStamp ntpTs + clockOffset, steadyMillis, roundTripDelay⟩

/-- What `RequestTime` meets: the results of `getaddrinfo`, `socket`, `connect` and `send`, the
    datagram that `recv` returns (if any), and the clocks when the request is written and when the
    reply has arrived. -/
structure NtpExchange where
  getaddrinfo : ℤ
  socket : ℤ
  connect : ℤ
  sendTime : Timeval
  send : ℤ
  datagram : Option (List UInt8)
  receiveTime : Timeval
  steadyMillis : ℤ
deriving DecidableEq, Repr

/-- `SNTPClient::RequestTime`: `none` is its answer false. -/
def requestTime (x : NtpExchange) : Option SNTPClient :=
  if x.getaddrinfo ≠ 0 then none
  else if x.socket = 0 then none
  else if x.connect < 0 then none
  else
    -- `CreateMessage` notes the time of the request
    let originateTimestamp := (convertUnixToNtp x.sendTime).pack
    if x.send = -1 then none else
    x.datagram.map fun datagram =>
      receivedMessage originateTimestamp (receiveBuffer datagram) x.receiveTime x.steadyMillis

/-! ### The trusted time -/

/-- `NtpTrustedTime::TimeResult`. -/
structure TimeResult where
  mTimeMillis : ℤ
  mElapsedRealtimeMillis : ℤ
  mCertaintyMillis : ℤ
deriving DecidableEq, Repr

/-- The result that `ForceRefresh` stores. -/
def TimeResult.ofClient (client : SNTPClient) : TimeResult :=
  ⟨client.mNtpTime, client.mNtpTimeReference, client.mRoundTripTime.tdiv 2⟩

/-- `TimeResult::CurrentTimeMillis`: the age is added to the time of the server. -/
def TimeResult.currentTimeMillis (r : TimeResult) (steadyMillis : ℤ) : ℤ :=
  r.mTimeMillis + (steadyMillis - r.mElapsedRealtimeMillis)

/-- `NtpTrustedTime::ForceRefresh`.  The server is asked a second time when it does not answer the
    first; a server that does not answer leaves the result as it is. -/
def forceRefresh (first second : NtpExchange) (mTimeResult : Option TimeResult) :
    Bool × Option TimeResult :=
  match requestTime first with
  | some client => (true, some (.ofClient client))
  | none =>
    match requestTime second with
    | some client => (true, some (.ofClient client))
    | none => (false, mTimeResult)

/-- `INVALID_MILLIS` of the trusted time, `INVALID_TIMES` of its user. -/
def invalidMillis : ℤ := -1

/-- `NtpTrustedTime::CurrentTimeMillis`. -/
def currentTimeMillis (mTimeResult : Option TimeResult) (steadyMillis : ℤ) : ℤ :=
  mTimeResult.elim invalidMillis fun r => r.currentTimeMillis steadyMillis

end TimeService
