import TimeService.Lib.Bytes
import TimeService.Ntp.Timestamp

namespace TimeService

/-!
# The bytes of a packet

How `sntp_client.cpp` puts a timestamp into a message buffer and takes one out of it.  Both
directions go by a copy in the order of the host, which is little-endian, and turn it around in a
loop over the bytes.

* `packet_codec`: a timestamp that is written is read back, and the timestamp that is read from a
  field is the big-endian value of its bytes.
-/

/-- `SNTPMessage`: the fields of the first byte and the originate timestamp. -/
structure SNTPMessage where
  leapIndicator : UInt8
  versionNumber : UInt8
  mode : UInt8
  originateTimestamp : UInt64
deriving DecidableEq, Repr

/-- `memcpy_s` of a 64-bit word of a little-endian host into its bytes. -/
def hostBytes (word : UInt64) : Vector UInt8 8 :=
  Vector.ofFn fun i => UInt8.ofNat (word.toNat / 256 ^ i.val)

/-- A turn of the loop of `WriteTimeStamp`, on the buffer and `numOfBit`. -/
def writeTurn (value : Vector UInt8 8) (s : NtpBuffer × ℤ) (loop : ℕ) : NtpBuffer × ℤ :=
  (s.1.setIfInBounds loop (value.getD s.2.toNat 0), s.2 - 1)

/-- `SNTPClient::WriteTimeStamp`: the buffer and `m_originateTimestamp` after it. -/
def writeTimeStamp (buffer : NtpBuffer) (ntp : NtpTimestamp) : NtpBuffer × UInt64 :=
  let ntpTs := ntp.pack
  let sntpMsg : SNTPMessage := ⟨0, 3, 3, ntpTs⟩
  let value := hostBytes sntpMsg.originateTimestamp
  -- the bytes of the host, from the last to the first
  let written := ((List.range' 24 8).foldl (writeTurn value) (buffer, 7)).1
  -- leap indicator, version and mode share the first byte
  (written.set 0 (sntpMsg.leapIndicator <<< 6 ||| sntpMsg.versionNumber <<< 3 ||| sntpMsg.mode),
    ntpTs)

/-- A turn of the loop of `GetNtpTimestamp64`, on `valueRx` and `numOfBit`. -/
def readTurn (buffer : NtpBuffer) (s : Vector UInt8 8 × ℤ) (loop : ℕ) : Vector UInt8 8 × ℤ :=
  (s.1.setIfInBounds s.2.toNat (buffer.getD loop 0), s.2 - 1)

/-- What `ReceivedMessage` decodes from the first byte and the originate field.  A `char` is signed
    and becomes an `int` before it is shifted or masked. -/
def SNTPMessage.received (buffer : NtpBuffer) : SNTPMessage :=
  let first := buffer[0].toInt8.toInt32
  { leapIndicator := (first >>> 6).toInt8.toUInt8
    versionNumber := ((first &&& 0x38) >>> 3).toInt8.toUInt8
    mode := (first &&& 0x7).toInt8.toUInt8
    originateTimestamp := getNtpTimestamp64 24 buffer }

/-- The eight bytes of the field at `offset`. -/
def fieldBytes (offset : ℕ) (buffer : NtpBuffer) : List UInt8 :=
  (List.range 8).map fun loop => buffer.getD (offset + loop) 0

/-- The two halves of a 64-bit timestamp. -/
def NtpTimestamp.ofWord (word : UInt64) : NtpTimestamp :=
  ⟨(word >>> 32).toUInt32, word.toUInt32⟩

/-! ### The loops -/

/-- The loop of `GetNtpTimestamp64` fills `valueRx` from its end. -/
theorem getNtpTimestamp64_eq_loop (offset : ℕ) (buffer : NtpBuffer) :
    getNtpTimestamp64 offset buffer
      = littleEndian ((List.range' offset 8).foldl (readTurn buffer)
          (Vector.replicate 8 0, 7)).1.toList := by
  have hloop : ((List.range' offset 8).foldl (readTurn buffer) (Vector.replicate 8 0, 7)).1.toList
      = (fieldBytes offset buffer).reverse := by
    simp [List.range'_succ, readTurn, fieldBytes, List.range_succ, Vector.toList_setIfInBounds]
  rw [hloop]
  rfl

private theorem getD_of_lt {n : ℕ} (bytes : Vector UInt8 n) {i : ℕ} (hi : i < n) :
    bytes.getD i 0 = bytes[i] := by
  show bytes.toArray.getD i 0 = bytes[i]
  rw [Array.getD_eq_getD_getElem?, Array.getElem?_eq_getElem (by simpa using hi)]
  rfl

/-- What `count` turns of the loop of `WriteTimeStamp` leave in the buffer. -/
private theorem foldl_writeTurn (value : Vector UInt8 8) (buffer : NtpBuffer) (offset count : ℕ) :
    ((List.range' offset count).foldl (writeTurn value) (buffer, 7)).2 = 7 - count ∧
    ∀ i (hi : i < ntpPackageSize),
      ((List.range' offset count).foldl (writeTurn value) (buffer, 7)).1[i]
        = if offset ≤ i ∧ i < offset + count then value.getD (7 - (i - offset : ℤ)).toNat 0
          else buffer[i] := by
  induction count with
  | zero =>
    refine ⟨by simp, fun i hi => ?_⟩
    rw [if_neg (by omega)]
    rfl
  | succ count ih =>
    obtain ⟨hindex, hbytes⟩ := ih
    rw [List.range'_concat, List.foldl_append, List.foldl_cons, List.foldl_nil, one_mul]
    refine ⟨?_, fun i hi => ?_⟩
    · show _ - 1 = _
      rw [hindex]
      push_cast
      ring
    · show (Vector.setIfInBounds _ (offset + count) (value.getD _ 0))[i] = _
      rw [Vector.getElem_setIfInBounds, hindex]
      by_cases hlast : offset + count = i
      · -- the byte of this turn
        have hcount : (count : ℤ) = i - offset := by omega
        rw [if_pos hlast, if_pos (by omega), hcount]
      · rw [if_neg hlast, hbytes i hi]
        have hiff : (offset ≤ i ∧ i < offset + count)
            ↔ (offset ≤ i ∧ i < offset + (count + 1)) := by
          omega
        simp only [hiff]

/-- The bytes outside the first one and the originate field stay as they are. -/
theorem writeTimeStamp_getElem (buffer : NtpBuffer) (ntp : NtpTimestamp) {i : ℕ}
    (hi : i < ntpPackageSize) (hfirst : i ≠ 0) (hfield : ¬ (24 ≤ i ∧ i < 32)) :
    (writeTimeStamp buffer ntp).1[i] = buffer[i] := by
  unfold writeTimeStamp
  simp only
  rw [Vector.getElem_set_ne _ _ hfirst.symm, (foldl_writeTurn _ buffer 24 8).2 i hi, if_neg hfield]

/-- The originate field holds the bytes of the timestamp, the most significant one first. -/
theorem fieldBytes_writeTimeStamp (buffer : NtpBuffer) (ntp : NtpTimestamp) :
    fieldBytes 24 (writeTimeStamp buffer ntp).1 = (Bytes.toLE 8 ntp.pack.toNat).reverse := by
  have hbyte : ∀ loop < 8, (writeTimeStamp buffer ntp).1.getD (24 + loop) 0
      = UInt8.ofNat (ntp.pack.toNat / 256 ^ (7 - loop)) := by
    intro loop hloop
    have hin : 24 + loop < ntpPackageSize := by
      show 24 + loop < 48
      omega
    have hindex : (7 - ((24 + loop : ℕ) - (24 : ℕ) : ℤ)).toNat = 7 - loop := by omega
    have hvalue : (hostBytes ntp.pack).getD (7 - loop) 0
        = UInt8.ofNat (ntp.pack.toNat / 256 ^ (7 - loop)) := by
      rw [getD_of_lt _ (show 7 - loop < 8 by omega)]
      simp [hostBytes]
    rw [getD_of_lt _ hin]
    unfold writeTimeStamp
    simp only
    rw [Vector.getElem_set_ne _ _ (by omega), (foldl_writeTurn _ buffer 24 8).2 _ hin,
      if_pos (by omega), hindex, hvalue]
  have hfield : fieldBytes 24 (writeTimeStamp buffer ntp).1
      = (List.range 8).map fun loop => UInt8.ofNat (ntp.pack.toNat / 256 ^ (7 - loop)) :=
    List.map_congr_left fun loop hloop => hbyte loop (List.mem_range.mp hloop)
  rw [hfield]
  rfl

/-! ### The value of a field -/

/-- The copy into a word loses nothing of up to eight bytes. -/
theorem littleEndian_toNat {bytes : List UInt8} (h : bytes.length ≤ 8) :
    (littleEndian bytes).toNat = Bytes.ofLE bytes := by
  induction bytes with
  | nil => rfl
  | cons byte bytes ih =>
    have hlength : bytes.length ≤ 8 := by
      rw [List.length_cons] at h
      omega
    have hlt := Bytes.ofLE_lt (byte :: bytes)
    have hfits : 256 ^ (byte :: bytes).length ≤ 256 ^ 8 := Nat.pow_le_pow_right (by decide) h
    rw [Bytes.ofLE_cons] at hlt ⊢
    rw [littleEndian, UInt64.toNat_add, UInt64.toNat_mul, ih hlength, UInt8.toNat_toUInt64]
    show (byte.toNat + 256 * Bytes.ofLE bytes % 2 ^ 64) % 2 ^ 64 = _
    omega

/-- `GetNtpTimestamp64` is the big-endian value of the bytes of the field. -/
theorem getNtpTimestamp64_toNat (offset : ℕ) (buffer : NtpBuffer) :
    (getNtpTimestamp64 offset buffer).toNat = Bytes.ofBE (fieldBytes offset buffer) := by
  show (littleEndian (fieldBytes offset buffer).reverse).toNat = _
  rw [littleEndian_toNat (by simp [fieldBytes]), ← Bytes.ofBE_reverse, List.reverse_reverse]

/-- The value of the written field. -/
theorem ofBE_fieldBytes_writeTimeStamp (buffer : NtpBuffer) (ntp : NtpTimestamp) :
    Bytes.ofBE (fieldBytes 24 (writeTimeStamp buffer ntp).1) = ntp.pack.toNat := by
  rw [fieldBytes_writeTimeStamp, Bytes.ofBE_reverse, Bytes.ofLE_toLE ntp.pack.toNat_lt]

@[simp] theorem NtpTimestamp.pack_ofWord (word : UInt64) : (ofWord word).pack = word := by
  apply UInt64.toNat_inj.mp
  have hlt := word.toNat_lt
  rw [NtpTimestamp.pack_toNat]
  show (word >>> 32).toUInt32.toNat * 2 ^ 32 + word.toUInt32.toNat = word.toNat
  rw [UInt64.toNat_toUInt32, UInt64.toNat_toUInt32, UInt64.toNat_shiftRight]
  show word.toNat >>> 32 % 2 ^ 32 * 2 ^ 32 + word.toNat % 2 ^ 32 = word.toNat
  rw [Nat.shiftRight_eq_div_pow]
  omega

/-- The first byte that is written. -/
theorem writeTimeStamp_first (buffer : NtpBuffer) (ntp : NtpTimestamp) :
    (writeTimeStamp buffer ntp).1[0] = 27 := by
  unfold writeTimeStamp
  simp only
  rw [Vector.getElem_set_self]
  rfl

/-- **Packet codec.** For every buffer and every timestamp: after `WriteTimeStamp` the originate
    field reads back as the timestamp, which is also the one that is kept, the header decodes as
    version 3, mode 3 and no leap warning, and no other byte has changed.  The timestamp of each
    field is the big-endian value of its bytes, and writing it back reproduces them. -/
theorem packet_codec (buffer : NtpBuffer) :
    (∀ ntp,
      (getNtpTimestamp64 24 (writeTimeStamp buffer ntp).1).toNat
          = ntp.second.toNat * 2 ^ 32 + ntp.fraction.toNat ∧
        (writeTimeStamp buffer ntp).2 = getNtpTimestamp64 24 (writeTimeStamp buffer ntp).1 ∧
        SNTPMessage.received (writeTimeStamp buffer ntp).1
          = ⟨0, 3, 3, (writeTimeStamp buffer ntp).2⟩ ∧
        ∀ i (hi : i < ntpPackageSize), i ≠ 0 → ¬ (24 ≤ i ∧ i < 32) →
          (writeTimeStamp buffer ntp).1[i] = buffer[i]) ∧
    ∀ offset ∈ [16, 24, 32, 40],
      (getNtpTimestamp64 offset buffer).toNat = Bytes.ofBE (fieldBytes offset buffer) ∧
        (NtpTimestamp.ofWord (getNtpTimestamp64 offset buffer)).pack
          = getNtpTimestamp64 offset buffer ∧
        ∀ sent, fieldBytes 24 (writeTimeStamp sent
            (.ofWord (getNtpTimestamp64 offset buffer))).1
          = fieldBytes offset buffer := by
  refine ⟨fun ntp => ?_, fun offset _ => ⟨getNtpTimestamp64_toNat offset buffer,
    NtpTimestamp.pack_ofWord _, fun sent => ?_⟩⟩
  · have hread : getNtpTimestamp64 24 (writeTimeStamp buffer ntp).1 = ntp.pack := by
      apply UInt64.toNat_inj.mp
      rw [getNtpTimestamp64_toNat, ofBE_fieldBytes_writeTimeStamp]
    refine ⟨by rw [hread, ntp.pack_toNat], hread.symm, ?_, fun i hi hfirst hfield =>
      writeTimeStamp_getElem buffer ntp hi hfirst hfield⟩
    unfold SNTPMessage.received
    rw [hread, writeTimeStamp_first]
    rfl
  · -- fields of one length with one value have the same bytes
    apply Bytes.ofBE_inj
    · simp [fieldBytes]
    · rw [ofBE_fieldBytes_writeTimeStamp, NtpTimestamp.pack_ofWord, getNtpTimestamp64_toNat]

end TimeService
